import Mathlib.Data.List.Basic
import Mathlib.Data.List.Induction
import PackageRequires.Checker

namespace PackageRequires.CheckerRegistry

/-! # Registries after any history

A call adds its checker to the registry, unless an earlier call had a checker of
the same name.  So a registry holds the first checker of each name, in the order of
the calls, and a run is made of their reports (`holds_first_of_each_name`).
-/

/-- A call that offers a checker to a registry. -/
inductive Call where
  | register (checker : Checker)
  | setUp

namespace Call

def checker : Call → Checker
  | register checker => checker
  | setUp => .forPackages Metadata.extract

def name (call : Call) : Text := call.checker.name

def apply (registry : CheckerRegistry) : Call → CheckerRegistry × Bool
  | register checker => registry.register checker
  | setUp => registry.setUp

theorem apply_eq (registry : CheckerRegistry) (call : Call) :
    call.apply registry = registry.register call.checker := by
  cases call <;> rfl

end Call

/-- Makes one call, and notes what it returned. -/
def step (state : CheckerRegistry × List Bool) (call : Call) : CheckerRegistry × List Bool :=
  let (registry, added) := call.apply state.1
  (registry, state.2 ++ [added])

/-- Makes the calls of a history one after another. -/
def replay (history : List Call) : CheckerRegistry × List Bool := history.foldl step (empty, [])

def after (history : List Call) : CheckerRegistry := (replay history).1

/-- What each call of a history returned. -/
def answers (history : List Call) : List Bool := (replay history).2

/-- The checkers of the calls that returned true. -/
def kept (history : List Call) : List Checker :=
  ((history.zip (answers history)).filter Prod.snd).map fun (call, _) => call.checker

/-! ## One more call -/

theorem isRegistered_iff {registry : CheckerRegistry} {name : Text} :
    registry.isRegistered name = true ↔ name ∈ registry.names := by
  simp [isRegistered, names]

theorem concat_cases (history : List Call) (call : Call) :
    (call.name ∈ (after history).names ∧ after (history ++ [call]) = after history ∧
      answers (history ++ [call]) = answers history ++ [false]) ∨
    (call.name ∉ (after history).names ∧
      (after (history ++ [call])).checkers = (after history).checkers ++ [call.checker] ∧
      answers (history ++ [call]) = answers history ++ [true]) := by
  have next : replay (history ++ [call]) = step (replay history) call := by
    rw [replay, List.foldl_append]
    rfl
  simp only [after, answers, next, step, call.apply_eq, register, isRegistered_iff, Call.name]
  by_cases taken : call.checker.name ∈ (replay history).1.names
  · rw [if_pos taken]
    exact .inl ⟨taken, rfl, rfl⟩
  · rw [if_neg taken]
    exact .inr ⟨taken, rfl, rfl⟩

theorem names_of_checkers {registry wider : CheckerRegistry} {checker : Checker}
    (added : wider.checkers = registry.checkers ++ [checker]) :
    wider.names = registry.names ++ [checker.name] := by
  rw [names, added, List.map_append]
  rfl

/-! ## Names -/

theorem mem_names_after_iff {history : List Call} {name : Text} :
    name ∈ (after history).names ↔ name ∈ history.map Call.name := by
  induction history using List.reverseRecOn with
  | nil => rfl
  | append_singleton history call ih =>
      rw [List.map_append, List.mem_append, ← ih]
      rcases concat_cases history call with ⟨taken, same, -⟩ | ⟨-, added, -⟩
      · rw [same, iff_self_or]
        intro here
        rwa [List.mem_singleton.mp here]
      · rw [names_of_checkers added, List.mem_append]
        rfl

/-- The names are in the order of the calls that first had them. -/
theorem names_after_ordered (history : List Call) :
    (after history).names.Pairwise fun left right =>
      (history.map Call.name).idxOf left < (history.map Call.name).idxOf right := by
  induction history using List.reverseRecOn with
  | nil => exact List.Pairwise.nil
  | append_singleton history call ih =>
      rw [List.map_append]
      have earlier : (after history).names.Pairwise fun left right =>
          (history.map Call.name ++ [call.name]).idxOf left <
            (history.map Call.name ++ [call.name]).idxOf right := by
        refine ih.imp_of_mem ?_
        intro left right inLeft inRight before
        rwa [List.idxOf_append_of_mem (mem_names_after_iff.mp inLeft),
          List.idxOf_append_of_mem (mem_names_after_iff.mp inRight)]
      rcases concat_cases history call with ⟨taken, same, -⟩ | ⟨fresh, added, -⟩
      · rw [same]
        exact earlier
      · rw [names_of_checkers added, List.pairwise_append]
        refine ⟨earlier, List.pairwise_singleton _ _, ?_⟩
        intro left inLeft right last
        obtain rfl := List.mem_singleton.mp last
        have known := mem_names_after_iff.mp inLeft
        have unknown := mem_names_after_iff.not.mp fresh
        have before := List.idxOf_lt_length_of_mem known
        change _ < (history.map Call.name ++ [call.name]).idxOf call.name
        rw [List.idxOf_append_of_mem known, List.idxOf_append_of_notMem unknown]
        omega

theorem names_after_nodup (history : List Call) : (after history).names.Nodup := by
  refine (names_after_ordered history).imp ?_
  intro left right before same
  rw [same] at before
  exact Nat.lt_irrefl _ before

/-! ## Answers -/

theorem exists_answers_concat (history : List Call) (call : Call) :
    ∃ added, answers (history ++ [call]) = answers history ++ [added] := by
  rcases concat_cases history call with ⟨-, -, noted⟩ | ⟨-, -, noted⟩
  · exact ⟨false, noted⟩
  · exact ⟨true, noted⟩

theorem length_answers (history : List Call) : (answers history).length = history.length := by
  induction history using List.reverseRecOn with
  | nil => rfl
  | append_singleton history call ih =>
      obtain ⟨added, noted⟩ := exists_answers_concat history call
      rw [noted, List.length_append, List.length_append, ih]
      rfl

theorem answers_prefix (earlier later : List Call) :
    answers earlier <+: answers (earlier ++ later) := by
  induction later using List.reverseRecOn with
  | nil => simp
  | append_singleton later call ih =>
      obtain ⟨added, noted⟩ := exists_answers_concat (earlier ++ later) call
      rw [← List.append_assoc, noted]
      exact ih.trans (List.prefix_append _ _)

theorem getElem?_answers {earlier later : List Call} {call : Call} {added : Bool}
    (noted : answers (earlier ++ [call]) = answers earlier ++ [added]) :
    (answers (earlier ++ call :: later))[earlier.length]? = some added := by
  obtain ⟨more, whole⟩ := answers_prefix (earlier ++ [call]) later
  rw [noted, List.append_assoc, List.append_assoc, List.singleton_append,
    List.singleton_append] at whole
  rw [← whole, ← length_answers earlier, List.getElem?_append_right (Nat.le_refl _), Nat.sub_self]
  rfl

/-! ## Checkers -/

theorem checkers_after (history : List Call) : (after history).checkers = kept history := by
  induction history using List.reverseRecOn with
  | nil => rfl
  | append_singleton history call ih =>
      have apart := (length_answers history).symm
      rcases concat_cases history call with ⟨-, same, noted⟩ | ⟨-, added, noted⟩
      · rw [same, ih, kept, kept, noted, List.zip_append apart]
        simp
      · rw [added, ih, kept, kept, noted, List.zip_append apart]
        simp

theorem run_after (history : List Call) (mode : Text) (catalogue : Catalogue) (document : Text) :
    (after history).run mode catalogue document =
      ((kept history).filter fun checker => mode ∈ checker.modes).flatMap fun checker =>
        checker.check catalogue document := by
  have listed : (fun checker : Checker => checker.supports mode) =
      fun checker => decide (mode ∈ checker.modes) := by
    funext checker
    exact List.contains_eq_mem mode checker.modes
  rw [run, forMode, checkers_after, listed]

/-- Whatever calls are made, a registry holds the first checker of each name, a call that
comes too late changes nothing, and a run reports for the checkers of the language. -/
theorem holds_first_of_each_name (history : List Call) :
    (after history).names.Nodup ∧
    (∀ name, name ∈ (after history).names ↔ name ∈ history.map Call.name) ∧
    ((after history).names.Pairwise fun left right =>
      (history.map Call.name).idxOf left < (history.map Call.name).idxOf right) ∧
    (∀ earlier call later, history = earlier ++ call :: later →
      ∃ added, (answers history)[earlier.length]? = some added ∧
        (added = true ↔ ∀ other ∈ earlier, other.name ≠ call.name) ∧
        (added = false → after (earlier ++ [call]) = after earlier)) ∧
    (after history).checkers = kept history ∧
    ∀ mode catalogue document, (after history).run mode catalogue document =
      ((kept history).filter fun checker => mode ∈ checker.modes).flatMap fun checker =>
        checker.check catalogue document := by
  refine ⟨names_after_nodup history, fun name => mem_names_after_iff, names_after_ordered history,
    ?_, checkers_after history, run_after history⟩
  intro earlier call later split
  subst split
  have known : call.name ∈ (after earlier).names ↔ ∃ other ∈ earlier, other.name = call.name := by
    rw [mem_names_after_iff, List.mem_map]
  rcases concat_cases earlier call with ⟨taken, same, noted⟩ | ⟨fresh, -, noted⟩
  · refine ⟨false, getElem?_answers noted, ?_, fun _ => same⟩
    obtain ⟨other, member, equal⟩ := known.mp taken
    simp only [Bool.false_eq_true, false_iff]
    exact fun unused => unused other member equal
  · refine ⟨true, getElem?_answers noted, ?_, nofun⟩
    simp only [true_iff]
    exact fun other member equal => fresh (known.mpr ⟨other, member, equal⟩)

/-- A checker for another language comes too late if its name is taken. -/
theorem holds_first_of_each_name_taken :
    answers [.setUp, .register ⟨"emacs-lisp-package".toList, ["python".toList], fun _ _ => []⟩] =
        [true, false] ∧
      after [.setUp, .register ⟨"emacs-lisp-package".toList, ["python".toList], fun _ _ => []⟩] =
        after [.setUp] := by
  let late : Call := .register ⟨"emacs-lisp-package".toList, ["python".toList], fun _ _ => []⟩
  have noted : answers [.setUp, late] = [true, false] := by decide
  obtain ⟨-, -, -, called, -⟩ := holds_first_of_each_name [.setUp, late]
  obtain ⟨added, answer, -, unchanged⟩ := called [.setUp] late [] rfl
  rw [noted] at answer
  exact ⟨noted, unchanged (Option.some.inj answer).symm⟩

end PackageRequires.CheckerRegistry
