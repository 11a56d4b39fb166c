import TypeShape.Conformance.Classes
import TypeShape.Proofs.FaithfulMemo

/-!
# Trials of readers with and without a memo

A reader with a memo is put to the same trial as one without, and its trial shows the same: the same
readings, and whether every check is met (`trial_of_reads`, `trialStages_withMemo`). What is shown can
be told from the texts of the checks alone (`trialFrom_passes_or_stops`), as long as the reader reads
as its classifier does; `Reads` says that it does, and each reading keeps it so.
-/

namespace TypeShape.Conformance

variable {cc : Classifier} {subject other : Subject} {previous : Option Descriptor}
  {check : Check} {checks : List Check}

/-- What the text of a check is read as. -/
def Check.outcome (cc : Classifier) (check : Check) : Outcome :=
  Descriptor.parse cc check.key.degroup check.key.input

/-- The key of a check, with what its text is read as. -/
def Check.reading (cc : Classifier) (check : Check) : Key × Outcome :=
  (check.key, check.outcome cc)

/-- Whether a check is met after a reading that gave a descriptor, or none. -/
def Check.isMet (cc : Classifier) (previous : Option Descriptor) (check : Check) : Bool :=
  check.demand.isMetBy check.key.input previous (check.outcome cc)

/-- The descriptor of the reading before the next one, after some checks. -/
def descriptorAfter (cc : Classifier) (previous : Option Descriptor) (checks : List Check) :
    Option Descriptor :=
  checks.foldl (fun _ check => (check.outcome cc).toOption) previous

/-- Each check is met after those that stand before it. -/
def AllMet (cc : Classifier) (previous : Option Descriptor) (checks : List Check) : Prop :=
  ∀ front check back, checks = front ++ check :: back →
    check.isMet cc (descriptorAfter cc previous front) = true

/-- Where there are no checks, all of them are met. -/
lemma AllMet.nil : AllMet cc previous [] := by
  intro front check back eq
  simp at eq

/-- The first check is met, and the others are after it. -/
lemma allMet_cons_iff :
    AllMet cc previous (check :: checks) ↔
      check.isMet cc previous = true ∧ AllMet cc (check.outcome cc).toOption checks := by
  constructor
  · intro met
    exact ⟨met [] check checks rfl,
      fun front later back eq => met (check :: front) later back (by rw [eq]; rfl)⟩
  · rintro ⟨first, met⟩ front later back eq
    cases front with
    | nil =>
      cases eq
      exact first
    | cons head front =>
      cases eq
      exact met front later back rfl

/-- A reader reads as a classifier does: it has no memo, or a faithful one. -/
inductive Subject.Reads (cc : Classifier) : Subject → Prop where
  | plain : Reads cc (.plain cc)
  | remembering {memo : Memo} : memo.Faithful cc → Reads cc (.remembering cc memo)

namespace Subject.Reads

/-- A memo that holds nothing is faithful. -/
lemma withMemo (cc : Classifier) (capacity : Option Nat) : Reads cc (withMemo capacity cc) :=
  .remembering (.new cc capacity)

/-- A reading is what the text is read as, and the reader reads as before after it. -/
lemma parse (h : Reads cc subject) (key : Key) :
    Reads cc (subject.parse key).1 ∧
      (subject.parse key).2.1 = Descriptor.parse cc key.degroup key.input := by
  cases h with
  | plain => exact ⟨.plain, rfl⟩
  | remembering faithful => exact ⟨.remembering (faithful.parse key), faithful.answer_parse key⟩

end Subject.Reads

namespace Report

/-- What a report shows of a trial, the events apart. -/
def shown (report : Report) : List (Key × Outcome) × Bool :=
  (report.readings, report.passed)

/-- Reports one after the other show what each of them shows. -/
lemma shown_andThen {first second first' second' : Report} (same : first.shown = first'.shown)
    (same' : second.shown = second'.shown) :
    (first.andThen second).shown = (first'.andThen second').shown := by
  obtain ⟨readings, passed⟩ := Prod.mk.inj same
  obtain ⟨readings', passed'⟩ := Prod.mk.inj same'
  unfold andThen
  rw [passed]
  cases first'.passed with
  | false => exact same
  | true => simp only [shown, readings, readings', passed', if_true]

/-- It does not matter which of three reports are put together first. -/
lemma andThen_assoc (first second third : Report) :
    (first.andThen second).andThen third = first.andThen (second.andThen third) := by
  cases passed : first.passed with
  | false => simp only [andThen_of_not_passed passed]
  | true => cases passed' : second.passed <;> simp [andThen, passed, passed']

end Report

/-- A check that is met is followed by the others, by the reader as it is afterwards. -/
lemma trialFrom_of_isMet (h : subject.Reads cc) (isMet : check.isMet cc previous = true)
    (checks : List Check) :
    trialFrom previous subject (check :: checks) =
      let rest := trialFrom (check.outcome cc).toOption (subject.parse check.key).1 checks
      (rest.1, Report.andThen ⟨[check.reading cc], (subject.parse check.key).2.2, true⟩ rest.2) := by
  have read : (subject.parse check.key).2.1 = check.outcome cc := (h.parse check.key).2
  unfold Check.isMet at isMet
  simp only [trialFrom, read, isMet]
  rfl

/-- A check that is not met is the last. -/
lemma trialFrom_of_not_isMet (h : subject.Reads cc) (unmet : check.isMet cc previous = false)
    (checks : List Check) :
    trialFrom previous subject (check :: checks) =
      ((subject.parse check.key).1,
        ⟨[check.reading cc], (subject.parse check.key).2.2, false⟩) := by
  have read : (subject.parse check.key).2.1 = check.outcome cc := (h.parse check.key).2
  unfold Check.isMet at unmet
  simp only [trialFrom, read, unmet]
  rfl

/-- Trials of readers that read as the same classifier does show the same. -/
lemma trialFrom_same (h : subject.Reads cc) (h' : other.Reads cc) (previous : Option Descriptor)
    (checks : List Check) :
    (trialFrom previous subject checks).2.shown = (trialFrom previous other checks).2.shown := by
  induction checks generalizing previous subject other with
  | nil => rfl
  | cons check checks ih =>
    have rest := ih (h.parse check.key).1 (h'.parse check.key).1 (check.outcome cc).toOption
    cases isMet : check.isMet cc previous with
    | false =>
      rw [trialFrom_of_not_isMet h isMet, trialFrom_of_not_isMet h' isMet]
      rfl
    | true =>
      rw [trialFrom_of_isMet h isMet, trialFrom_of_isMet h' isMet]
      exact Report.shown_andThen rfl rest

/-- A trial keeps a reader reading as its classifier does. -/
lemma Subject.Reads.trialFrom (h : subject.Reads cc) (previous : Option Descriptor)
    (checks : List Check) : (trialFrom previous subject checks).1.Reads cc := by
  induction checks generalizing previous subject with
  | nil => exact h
  | cons check checks ih =>
    have kept := (h.parse check.key).1
    cases isMet : check.isMet cc previous with
    | false =>
      rw [trialFrom_of_not_isMet h isMet]
      exact kept
    | true =>
      rw [trialFrom_of_isMet h isMet]
      exact ih kept _

/-- A trial passes when all checks are met, and shows what each text is read as. Else it stops at the
first check that is not met after those before it, and shows the readings up to there. -/
theorem trialFrom_passes_or_stops (h : subject.Reads cc) (previous : Option Descriptor)
    (checks : List Check) :
    (AllMet cc previous checks ∧
        (trialFrom previous subject checks).2.shown = (checks.map (Check.reading cc), true)) ∨
      ∃ front check back, checks = front ++ check :: back ∧ AllMet cc previous front ∧
        check.isMet cc (descriptorAfter cc previous front) = false ∧
        (trialFrom previous subject checks).2.shown =
          ((front ++ [check]).map (Check.reading cc), false) := by
  induction checks generalizing previous subject with
  | nil => exact .inl ⟨.nil, rfl⟩
  | cons check checks ih =>
    cases isMet : check.isMet cc previous with
    | false =>
      -- nothing stands before the check at which the trial stops
      rw [trialFrom_of_not_isMet h isMet]
      exact .inr ⟨[], check, checks, rfl, .nil, isMet, rfl⟩
    | true =>
      rw [trialFrom_of_isMet h isMet]
      rcases ih (h.parse check.key).1 (check.outcome cc).toOption with
        ⟨met, shown⟩ | ⟨front, failed, back, rfl, met, unmet, shown⟩
      · obtain ⟨readings, passed⟩ := Prod.mk.inj shown
        refine .inl ⟨allMet_cons_iff.mpr ⟨isMet, met⟩, ?_⟩
        simp [Report.shown, Report.andThen, readings, passed]
      · obtain ⟨readings, passed⟩ := Prod.mk.inj shown
        refine .inr ⟨check :: front, failed, back, rfl, allMet_cons_iff.mpr ⟨isMet, met⟩, unmet, ?_⟩
        simp [Report.shown, Report.andThen, readings, passed]

/-- A trial passes exactly if all checks are met. -/
theorem trialFrom_passed_iff (h : subject.Reads cc) :
    (trialFrom previous subject checks).2.passed = true ↔ AllMet cc previous checks := by
  rcases trialFrom_passes_or_stops h previous checks with
    ⟨met, shown⟩ | ⟨front, check, back, rfl, _, unmet, shown⟩
  · exact iff_of_true (Prod.mk.inj shown).2 met
  · refine iff_of_false ?_ fun met => ?_
    · rw [(Prod.mk.inj shown).2]
      exact Bool.false_ne_true
    · rw [met front check back rfl] at unmet
      cases unmet

/-- A trial of some checks and then others is one of the first ones and then, by the reader as they
leave it and after the reading that they end with, one of the others. -/
theorem trialFrom_append (h : subject.Reads cc) (previous : Option Descriptor)
    (checks more : List Check) :
    (trialFrom previous subject (checks ++ more)).2 =
      (trialFrom previous subject checks).2.andThen
        (trialFrom (descriptorAfter cc previous checks)
          (trialFrom previous subject checks).1 more).2 := by
  induction checks generalizing previous subject with
  | nil => exact (Report.empty_andThen _).symm
  | cons check checks ih =>
    have rest := ih (h.parse check.key).1 (check.outcome cc).toOption
    rw [List.cons_append]
    cases isMet : check.isMet cc previous with
    | false =>
      rw [trialFrom_of_not_isMet h isMet, trialFrom_of_not_isMet h isMet]
      exact (Report.andThen_of_not_passed rfl _).symm
    | true =>
      rw [trialFrom_of_isMet h isMet, trialFrom_of_isMet h isMet, Report.andThen_assoc]
      exact congrArg
        (Report.andThen ⟨[check.reading cc], (subject.parse check.key).2.2, true⟩) rest

/-- No trial can tell a reader with a faithful memo from one without: the readings are the same, and
so is whether all checks are met. -/
theorem trial_of_reads (h : subject.Reads cc) (checks : List Check) :
    (trial subject checks).2.readings = (trial (.plain cc) checks).2.readings ∧
      (trial subject checks).2.passed = (trial (.plain cc) checks).2.passed :=
  Prod.mk.inj (trialFrom_same h .plain none checks)

/-- Nor can trials in stages, of which each has a new reader with a memo of any capacity. -/
theorem trialStages_withMemo (capacity : Option Nat) (sets : Classifier.Replacements)
    (stages : List Stage) :
    (trialStages (.withMemo capacity) sets stages).readings =
        (trialStages .plain sets stages).readings ∧
      (trialStages (.withMemo capacity) sets stages).passed =
        (trialStages .plain sets stages).passed := by
  have same : (trialStages (.withMemo capacity) sets stages).shown =
      (trialStages .plain sets stages).shown := by
    induction stages with
    | nil => rfl
    | cons stage stages ih =>
      exact Report.shown_andThen (trialFrom_same (.withMemo _ capacity) .plain none _) ih
  exact Prod.mk.inj same

/-- The standard reader without a memo meets all checks of the notation. -/
lemma trial_plain_formChecks : (trial (.plain .standard) formChecks).2.passed = true := by
  decide +kernel

/-- Every reader that reads as the standard classifier does meets all checks of the notation, whatever
its memo holds. -/
theorem trial_formChecks (h : subject.Reads .standard) :
    (trial subject formChecks).2.passed = true := by
  rw [(trial_of_reads h formChecks).2]
  exact trial_plain_formChecks

/-- Readers with a memo of any capacity meet the checks of the character classes. -/
theorem trialStages_classStages (capacity : Option Nat) :
    (trialStages (.withMemo capacity) (fun _ => none) classStages).passed = true := by
  rw [(trialStages_withMemo capacity _ classStages).2]
  decide +kernel

end TypeShape.Conformance
