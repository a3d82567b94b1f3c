import LendingGateway.Log.Directive
import LendingGateway.Text.Split

namespace LendingGateway
namespace Log

/-!
# Log filters

A filter is a list of directives between commas.  Of the directives that are about an
event the narrowest one decides, and of several equally narrow ones the last.  An event
that no directive is about is not shown.
-/

structure Filter where
  directives : List Directive
deriving DecidableEq, Repr

/-- The filter that shows everything from a level up. -/
def Filter.fromLevel (least : Level) : Filter :=
  ⟨[⟨none, false, [], some least⟩]⟩

/-- The filter in force when nothing else is said: everything from `info` up. -/
def Filter.standard : Filter :=
  .fromLevel .info

/-- The filter that a text gives.  A text without directives shows errors alone. -/
def Filter.read? (text : String) : Option Filter := do
  let pieces := (Text.splitAt ',' text.toList).filter fun piece => !piece.isEmpty
  if pieces.isEmpty then some (.fromLevel .error)
  else (pieces.mapM Directive.read?).map Filter.mk

/-- The directive that decides about an event. -/
def Filter.deciding? (filter : Filter) (event : Event) : Option Directive :=
  (filter.directives.filter (·.isAbout event)).foldl
    (fun best? directive =>
      match best? with
      | none => some directive
      | some best => if directive.isAsNarrowAs best then some directive else some best)
    none

def Filter.shows (filter : Filter) (event : Event) : Bool :=
  ((filter.deciding? event).bind Directive.least).any fun least =>
    least.weight ≤ event.level.weight

end Log
end LendingGateway
