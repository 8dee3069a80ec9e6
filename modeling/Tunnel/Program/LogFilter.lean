import Tunnel.Program.Directive
import Tunnel.Text.Terminal

/-!
# Log filters

A filter chooses the notices that are shown. It is a list of directives with commas between them. Of
the directives about a notice the most specific counts, and of equally specific ones the last. A
notice that no directive is about is not shown.

## Main definitions

* `LogFilter` — a filter
* `LogFilter.parse?` — reading a filter
* `LogFilter.allows` — whether a notice is shown
* `LogFilter.choose` — the filter by the environment and the command line
* `LogFilter.line` — a notice as it is shown

## Main results

* `LogFilter.allows_mono` — what is shown at a level is shown with every graver one
* `LogFilter.rankFor_eq_zero` — where no directive is about a target, nothing is shown
* `LogFilter.allows_nil` — a filter of no directive, which shows nothing
-/

namespace Tunnel

/-- A filter of notices. -/
structure LogFilter where
  directives : List Directive
deriving DecidableEq, Repr

namespace LogFilter

/-- The filter that allows every notice up to a level. -/
def upTo (level : Level) : LogFilter := ⟨[⟨[], none, none, level.rank⟩]⟩

/-- Reads a filter. Nothing need stand between two commas, and one that says nothing is a filter
that allows nothing. -/
def parse? (s : String) : Option LogFilter :=
  (((Text.splitAt ',' s.toList).filter (· != [])).mapM Directive.read?).map LogFilter.mk

/-- The directive that counts, of one that counted so far and a later one. -/
def narrower (best : Option Directive) (d : Directive) : Option Directive :=
  match best with
  | none => some d
  | some b => if d.isWiderThan b then some b else some d

/-- The rank that is allowed for a target. -/
def rankFor (filter : LogFilter) (target : String) : Nat :=
  let about := filter.directives.filter fun d => d.isAbout target
  ((about.foldl narrower none).map Directive.rank).getD 0

/-- Whether a notice is shown. -/
def allows (filter : LogFilter) (notice : Notice) : Bool :=
  notice.level.rank ≤ filter.rankFor notice.origin.target

/-- The filter where the environment does not say. -/
def standard (verbose : Bool) : LogFilter := upTo (if verbose then .debug else .info)

/-- The filter by the two variables of the environment, the first that is set and can be read, and
else by the command line. -/
def choose (filterText levelText : Option String) (verbose : Bool) : LogFilter :=
  ((filterText.bind parse?).or (levelText.bind parse?)).getD (standard verbose)

/-- A notice as it is shown: its level in a column of five, its target and its text. -/
def line (notice : Notice) : String :=
  let label := notice.level.label
  String.ofList (List.replicate (5 - label.length) ' ') ++ label ++ " " ++ notice.origin.target ++
    ": " ++ Text.defuse notice.text ++ "\n"

/-- The notices that are shown, a line each. -/
def transcript (filter : LogFilter) (notices : List Notice) : String :=
  String.join ((notices.filter filter.allows).map line)

theorem allows_mono {filter : LogFilter} {a b : Notice} (ha : filter.allows a = true)
    (horigin : b.origin = a.origin) (hlevel : b.level.rank ≤ a.level.rank) :
    filter.allows b = true := by
  simp only [allows, decide_eq_true_eq, horigin] at ha ⊢
  omega

/-- Where no directive is about a target, nothing is shown. -/
theorem rankFor_eq_zero {filter : LogFilter} {target : String}
    (h : ∀ d ∈ filter.directives, d.isAbout target = false) : filter.rankFor target = 0 := by
  have hnone : filter.directives.filter (fun d => d.isAbout target) = [] :=
    List.filter_eq_nil_iff.2 fun d hd => by simp [h d hd]
  simp [rankFor, hnone]

/-- A filter without directives shows nothing, errors included. -/
theorem allows_nil (notice : Notice) : LogFilter.allows ⟨[]⟩ notice = false := by
  have hrank : 0 < notice.level.rank := by cases notice.level <;> decide
  rw [allows, rankFor_eq_zero (by simp), decide_eq_false_iff_not]
  omega

end LogFilter

end Tunnel
