import Mathlib.Data.List.Chain
import Mathlib.Data.List.SplitBy
import Transclusion.Assemblage
import Transclusion.Proofs.Pattern.Template

/-!
# Error slots

The value of a slot is written into its template with every dollar sign doubled. If the dollar signs
of the template stand in pairs as well, so do those of the whole, wherever signs of the value meet
signs of the template. Then nothing in it is a reference, and each match of the slot is replaced by
one and the same text.

## Main results

`renderFailure_verbatim`: a failed block with the status and the text of the failure as they are.
-/

namespace Transclusion

namespace Template

/-- A text in which every two dollar signs are read as one. -/
def halved : List Char → List Char
  | [] => []
  | '$' :: '$' :: cs => '$' :: halved cs
  | c :: cs => c :: halved cs

/-- Whether the dollar signs of a template stand in runs of even length. -/
def EvenDollars (template : String) : Prop :=
  ∀ run ∈ template.toList.splitBy (· == ·), '$' ∈ run → run.length % 2 = 0

instance : DecidablePred EvenDollars := fun _ => inferInstanceAs (Decidable (∀ _ ∈ _, _ → _))

variable {run rest : List Char}

theorem doubled_halved_plain (plain : '$' ∉ run) (paired : doubled (halved rest) = rest) :
    doubled (halved (run ++ rest)) = run ++ rest := by
  induction run with
  | nil => exact paired
  | cons c run ih =>
    rw [List.mem_cons, not_or] at plain
    have other : c ≠ '$' := Ne.symm plain.1
    have kept : halved (c :: (run ++ rest)) = c :: halved (run ++ rest) := by
      rw [halved]
      intro more dollar
      exact absurd dollar other
    rw [List.cons_append, kept, doubled_plain other, ih plain.2]

theorem doubled_halved_dollars (n : Nat) (paired : doubled (halved rest) = rest) :
    doubled (halved (List.replicate (2 * n) '$' ++ rest)) = List.replicate (2 * n) '$' ++ rest := by
  induction n with
  | zero =>
    rw [Nat.mul_zero, List.replicate_zero, List.nil_append]
    exact paired
  | succ n ih =>
    have two : List.replicate (2 * (n + 1)) '$' ++ rest =
        '$' :: '$' :: (List.replicate (2 * n) '$' ++ rest) := rfl
    rw [two, halved, doubled_dollar, ih]

theorem eq_replicate_of_mem {template : List Char} (member : run ∈ template.splitBy (· == ·))
    (dollar : '$' ∈ run) : run = List.replicate run.length '$' := by
  -- All characters of a run are the same.
  have equal : run.IsChain (· = ·) :=
    (List.isChain_of_mem_splitBy member).imp fun _ _ same => beq_iff_eq.1 same
  cases run with
  | nil => cases dollar
  | cons c run =>
    have all := List.isChain_eq_iff_eq_replicate.1 equal c rfl
    rw [all] at dollar
    rwa [List.eq_of_mem_replicate dollar]

theorem doubled_halved {template : String} (even : EvenDollars template) :
    doubled (halved template.toList) = template.toList := by
  -- The runs joined again are the text, so the text can be gone through run by run.
  have joined : ∀ runs : List (List Char), (∀ run ∈ runs, run ∈ template.toList.splitBy (· == ·)) →
      doubled (halved runs.flatten) = runs.flatten := by
    intro runs among
    induction runs with
    | nil => rfl
    | cons run runs ih =>
      have here := among run List.mem_cons_self
      have paired := ih fun other member => among other (List.mem_cons_of_mem _ member)
      rw [List.flatten_cons]
      by_cases dollar : '$' ∈ run
      · have pairs : run.length = 2 * (run.length / 2) := by
          have := even run here dollar
          omega
        rw [eq_replicate_of_mem here dollar, pairs]
        exact doubled_halved_dollars _ paired
      · exact doubled_halved_plain dollar paired
  have all := joined _ fun _ member => member
  rwa [List.flatten_splitBy] at all

end Template

namespace Assemblage

/-- What a slot is filled with: its template with the value in place of each asterisk. -/
def slotText (template value : String) : String :=
  Text.replaceChar '*' value (String.ofList (Template.halved template.toList))

theorem replaceChar_literal {template : String} (even : Template.EvenDollars template)
    (value : String) : Text.replaceChar '*' (literal value) template =
      String.ofList (Template.doubled (slotText template value).toList) := by
  have signs : (literal value).toList = Template.doubled value.toList := by
    rw [literal, Text.replaceChar, String.toList_ofList]
    rfl
  rw [Text.replaceChar, ← Template.doubled_halved even, slotText, Text.replaceChar, signs]
  simp only [String.toList_ofList]
  -- The signs may be doubled before the value is put in or after.
  unfold Template.doubled
  rw [List.flatMap_assoc, List.flatMap_assoc]
  congr 2
  funext c
  by_cases dollar : c = '$'
  · subst dollar
    rfl
  · by_cases asterisk : c = '*'
    · simp [asterisk]
    · simp [dollar, asterisk]

/-- Replace every match of a slot by the text that it is filled with. -/
def overwriteSlot (a : Assemblage) (slot value block : String) : String :=
  match a.slot? slot with
  | none => block
  | some r => r.pattern.replaceAll block fun _ => (slotText r.template value).toList

theorem fillSlot_eq_overwriteSlot (a : Assemblage) (slot value block : String)
    (even : ∀ r, a.slot? slot = some r → Template.EvenDollars r.template) :
    a.fillSlot slot value block = a.overwriteSlot slot value block := by
  unfold fillSlot overwriteSlot
  cases bound : a.slot? slot with
  | none => rfl
  | some r =>
    have constant : Template.expand r.pattern (Text.replaceChar '*' (literal value) r.template) =
        fun _ => (slotText r.template value).toList := by
      funext m
      rw [replaceChar_literal (even r bound), Template.expand_doubled]
    dsimp only
    rw [Pattern.replaceWith, constant]

/-- If the dollar signs of the templates stand in pairs, the status and the text of the failure
stand for the asterisks as they are, and each match of a slot becomes the text of its template. -/
theorem renderFailure_verbatim (a : Assemblage)
    (even : ∀ slot ∈ ["ERROR_STATUS", "ERROR_TEXT"], ∀ r, a.slot? slot = some r →
      Template.EvenDollars r.template) (block : String) (failure : FetchFailure) :
    a.renderFailure block failure = a.overwriteSlot "ERROR_TEXT" failure.text
      (a.overwriteSlot "ERROR_STATUS" (toString failure.status) block) := by
  rw [renderFailure_eq, fillSlot_eq_overwriteSlot a "ERROR_STATUS" _ _ (even _ (by simp)),
    fillSlot_eq_overwriteSlot a "ERROR_TEXT" _ _ (even _ (by simp))]

def compiled (source : String) : Pattern := (Pattern.compile? source).getD default

/-- Slots whose templates have dollar signs beside the asterisks. -/
def marked : Assemblage :=
  ((make "page").withError "ERROR_STATUS" ⟨compiled "ERR", "$$*$$"⟩).withError "ERROR_TEXT"
    ⟨compiled "M(.)G", "*$$*:\x7b1\x7d"⟩

/-- A text with a reference, an asterisk, a token and a lone dollar sign. -/
theorem renderFailure_verbatim_of_signs :
    (∀ slot ∈ ["ERROR_STATUS", "ERROR_TEXT"], ∀ r, marked.slot? slot = some r →
      Template.EvenDollars r.template) ∧
    marked.renderFailure "<b>ERR MSG</b>" (.failed 404 (some "$1*\x7b2\x7d$")) =
      "<b>$404$ $1*\x7b2\x7d$$$1*\x7b2\x7d$:\x7b1\x7d</b>" := by
  have even : ∀ slot ∈ ["ERROR_STATUS", "ERROR_TEXT"], ∀ r, marked.slot? slot = some r →
      Template.EvenDollars r.template := by
    have templates : ∀ slot ∈ ["ERROR_STATUS", "ERROR_TEXT"],
        ∀ template ∈ (marked.slot? slot).map Replacer.template, Template.EvenDollars template := by
      decide +kernel
    intro slot member r bound
    exact templates slot member r.template (by rw [bound]; rfl)
  refine ⟨even, ?_⟩
  rw [renderFailure_verbatim marked even]
  decide +kernel

end Assemblage

end Transclusion
