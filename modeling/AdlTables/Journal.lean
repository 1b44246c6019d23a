import AdlTables.Fault

/-! # Journals

Computations that may fail and that write down what they do on the way. The entries written before
a failure are kept. `Journaled.outcome` is a map of monads: what a computation gives does not depend
on what it writes down.
-/

namespace AdlTables

/-- The levels of journal entries, the least urgent first. -/
inductive Level where
  | debug
  | info
  | warning
  | error
  | critical
deriving DecidableEq, Repr

namespace Level

def rank : Level → Nat
  | debug => 10
  | info => 20
  | warning => 30
  | error => 40
  | critical => 50

def label : Level → String
  | debug => "DEBUG"
  | info => "INFO"
  | warning => "WARNING"
  | error => "ERROR"
  | critical => "CRITICAL"

def ofLabel? (s : String) : Option Level :=
  [debug, info, warning, error, critical].find? fun level => level.label == s

end Level

/-- What a computation writes down. -/
inductive Entry where
  /-- A message at a level, followed by the trace of the failure it tells of where `traced`. -/
  | message (level : Level) (text : String) (traced : Bool)
  /-- A line that is shown at every level and as it is. -/
  | line (text : String)
deriving DecidableEq, Repr

/-- Whether an entry is shown when messages below a level are left out. -/
def Entry.isShownAt (least : Level) : Entry → Bool
  | message level _ _ => least.rank ≤ level.rank
  | line _ => true

/-- A computation with its journal: the entries in order, and what it came to. -/
structure Journaled (α : Type) where
  entries : List Entry
  outcome : Except Fault α

namespace Journaled

variable {α β : Type}

instance : Monad Journaled where
  pure a := ⟨[], .ok a⟩
  bind x f := match x.outcome with
    | .error e => ⟨x.entries, .error e⟩
    | .ok a => ⟨x.entries ++ (f a).entries, (f a).outcome⟩

instance : MonadLift (Except Fault) Journaled where
  monadLift x := ⟨[], x⟩

/-- Writes down a message. -/
def note (level : Level) (text : String) : Journaled Unit :=
  ⟨[.message level text false], .ok ()⟩

/-- Writes down lines that are shown at every level. -/
def print (lines : List String) : Journaled Unit :=
  ⟨lines.map .line, .ok ()⟩

def raise (p : Problem) : Journaled α :=
  ⟨[], .error (.problem p)⟩

def fail (f : Fault) : Journaled α :=
  ⟨[], .error f⟩

/-- A computation whose fault is put into words. -/
def voiced (x : Journaled α) : Journaled α :=
  ⟨x.entries, x.outcome.mapError Fault.voiced⟩

@[simp] theorem outcome_pure (a : α) : (pure a : Journaled α).outcome = .ok a := rfl

@[simp] theorem outcome_bind (x : Journaled α) (f : α → Journaled β) :
    (x >>= f).outcome = x.outcome >>= fun a => (f a).outcome := by
  obtain ⟨entries, outcome⟩ := x
  cases outcome <;> rfl

@[simp] theorem outcome_note (level : Level) (text : String) :
    (note level text).outcome = .ok () := rfl

@[simp] theorem outcome_monadLift (x : Except Fault α) :
    (liftM x : Journaled α).outcome = x := rfl

private theorem id_map (x : Journaled α) : id <$> x = x := by
  obtain ⟨entries, outcome⟩ := x
  cases outcome <;> simp [Functor.map]

private theorem bind_assoc {γ : Type} (x : Journaled α) (f : α → Journaled β)
    (g : β → Journaled γ) : x >>= f >>= g = x >>= fun a => f a >>= g := by
  obtain ⟨entries, outcome⟩ := x
  cases outcome with
  | error e => rfl
  | ok a => cases h : (f a).outcome <;> simp [bind, h, List.append_assoc]

instance : LawfulMonad Journaled :=
  LawfulMonad.mk' Journaled id_map (fun a f => by simp [bind, pure]) bind_assoc

end Journaled

end AdlTables
