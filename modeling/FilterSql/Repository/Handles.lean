import FilterSql.Repository

/-!
# Handles

One backend can be reached through several handles: a blocking one, an asynchronous one, and further
asynchronous ones that are cancelled independently. The asynchronous handles share their caches;
the blocking one has its own.
-/

namespace FilterSql

/-- The handle through which an operation is started. -/
inductive Handle where
  | blocking
  /-- An asynchronous handle with the cancellation signal of this name; the main one has none. -/
  | async (signal : Option String)
deriving DecidableEq, Repr

/-- A backend with the handles to it. -/
structure Handles (σ : Type) where
  /-- The state of the backend. -/
  backend : σ
  /-- What the blocking handle remembers. -/
  blocking : Caches
  /-- What the asynchronous handles remember. -/
  async : Caches
  /-- The signals that have been set. -/
  cancelled : List (Option String) := []

namespace Handles

variable {σ τ : Type}

/-- How operations of a handle are run. -/
def access (h : Handles σ) : Handle → Access
  | .blocking => .blocking
  | .async signal => .async (h.cancelled.contains signal)

/-- Set a signal. -/
def cancel (h : Handles σ) (signal : Option String) : Handles σ :=
  { h with cancelled := signal :: h.cancelled }

/-- What a handle remembers. -/
def caches (h : Handles σ) : Handle → Caches
  | .blocking => h.blocking
  | .async _ => h.async

/-- Replace what a handle remembers. -/
def remember (h : Handles σ) (handle : Handle) (caches : Caches) : Handles σ :=
  match handle with
  | .blocking => { h with blocking := caches }
  | .async _ => { h with async := caches }

/-- Run an operation through a handle: its outcome, the stages that it reached, and the handles
afterwards. -/
def run {α : Type} (h : Handles σ) (r : Repository σ τ) (handle : Handle)
    (operation : Repository σ τ → Action σ α) :
    Except QueryError α × List Stage × Handles σ :=
  let (result, s) :=
    (operation { r with access := h.access handle }).perform
      { backend := h.backend, caches := h.caches handle }
  (result, s.stages, { h.remember handle s.caches with backend := s.backend })

end Handles

end FilterSql
