import AuditSearch.Output.Plan
import AuditSearch.Report.Printout

/-!
# What is reported while queries are written

Writing queries emits events. `Traced` is a result together with its events; a step after a
failure is not taken, so it emits nothing.
-/

namespace AuditSearch.Query

open Output Report

inductive Event where
  /-- A query was written, for this many distinct fields. -/
  | rendered (query : String) (fields : Nat)
  /-- A requested field has no rule. -/
  | unknownField (name : String)
  /-- All queries of a batch were written. -/
  | renderedAll (count : Nat) (index : String) (layout : Layout)
deriving DecidableEq, Repr

inductive Level where
  | debug
  | warn
deriving DecidableEq, Repr

namespace Event

def level : Event → Level
  | rendered .. => .debug
  | unknownField .. => .warn
  | renderedAll .. => .debug

def message : Event → String
  | rendered .. => "ujquery.render"
  | unknownField .. => "ujquery.unknown_field"
  | renderedAll .. => "rendered queries"

/-- The named values of an event. -/
def values : Event → List (String × String)
  | rendered query fields => [("query", query), ("fields", toString fields)]
  | unknownField name => [("field", name)]
  | renderedAll count index layout =>
    [("count", toString count), ("index", index), ("format", layout.name)]

/-- The event that reports an error. -/
def ofError : QueryError → Event
  | .unknownField name => .unknownField name

end Event

structure Traced (α : Type) where
  outcome : Except QueryError α
  events : List Event

namespace Traced

instance : Monad Traced where
  pure a := ⟨.ok a, []⟩
  bind x f := match x.outcome with
    | .error e => ⟨.error e, x.events⟩
    | .ok a => ⟨(f a).outcome, x.events ++ (f a).events⟩

def emit (event : Event) : Traced Unit := ⟨.ok (), [event]⟩

variable {α β γ : Type}

theorem pure_eq (a : α) : (pure a : Traced α) = ⟨.ok a, []⟩ := rfl

theorem bind_of_ok {x : Traced α} {a : α} (h : x.outcome = .ok a)
    (f : α → Traced β) : x >>= f = ⟨(f a).outcome, x.events ++ (f a).events⟩ := by
  simp only [bind, h]

theorem bind_of_error {x : Traced α} {e : QueryError} (h : x.outcome = .error e)
    (f : α → Traced β) : x >>= f = ⟨.error e, x.events⟩ := by
  simp only [bind, h]

theorem map_id (x : Traced α) : id <$> x = x := by
  obtain ⟨outcome, events⟩ := x
  cases outcome with
  | error e => rfl
  | ok a => simp [Functor.map]

theorem pure_bind (a : α) (f : α → Traced β) : pure a >>= f = f a := by
  simp [bind, pure]

theorem bind_assoc (x : Traced α) (f : α → Traced β) (g : β → Traced γ) :
    x >>= f >>= g = x >>= fun a => f a >>= g := by
  obtain ⟨outcome, events⟩ := x
  cases outcome with
  | error e => rfl
  | ok a =>
    simp only [bind]
    cases (f a).outcome <;> simp

instance : LawfulMonad Traced :=
  .mk' Traced map_id pure_bind bind_assoc

end Traced

end AuditSearch.Query
