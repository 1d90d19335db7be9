import Transclusion.Proofs.Assemblage.Slots
import Transclusion.Proofs.Pattern.Filling

/-!
# Rendering a failure again

The slots are filled in one pass each, and nothing that has been put in is searched again. Rendering
the block once more would do that. It changes nothing as long as no match of a slot reaches a text
that the first rendering has put in; that this text has no match of its own is not enough.

## Main results

`renderFailure_idempotent`: when a block can be rendered twice without a change.
-/

namespace Transclusion.Assemblage

/-- A block with a slot filled in. -/
def filling (a : Assemblage) (slot value block : String) : Filling :=
  match a.slot? slot with
  | none => ⟨[], block.toList⟩
  | some r =>
    r.pattern.filling block
      (Template.expand r.pattern (Text.replaceChar '*' (literal value) r.template))

/-- A block with the status of a failure filled in. -/
def statusFilling (a : Assemblage) (block : String) (failure : FetchFailure) : Filling :=
  a.filling "ERROR_STATUS" (toString failure.status) block

/-- A block with the text of a failure filled in after its status. -/
def textFilling (a : Assemblage) (block : String) (failure : FetchFailure) : Filling :=
  a.filling "ERROR_TEXT" failure.text (a.fillSlot "ERROR_STATUS" (toString failure.status) block)

variable {a : Assemblage} {slot value block : String}

theorem fillSlot_eq_filling (a : Assemblage) (slot value block : String) :
    a.fillSlot slot value block = String.ofList (a.filling slot value block).text := by
  cases bound : a.slot? slot with
  | none => simp [fillSlot, filling, bound, Filling.text]
  | some r =>
    simp only [fillSlot, filling, bound]
    exact Pattern.replaceAll_eq_filling _ _ _

theorem fillSlot_of_unmatched
    (unmatched : ∀ r, a.slot? slot = some r → r.pattern.findIn none block.toList = none) :
    a.fillSlot slot value block = block := by
  unfold fillSlot
  split
  · rfl
  · rename_i r bound
    exact Pattern.replaceAll_of_unmatched (unmatched r bound) _

theorem unmatched_fillSlot
    (compiled : ∀ r, a.slot? slot = some r → ∃ source, Pattern.compile? source = some r.pattern)
    (spared : ∀ r, a.slot? slot = some r → (a.filling slot value block).SparedBy r.pattern) :
    ∀ r, a.slot? slot = some r →
      r.pattern.findIn none (a.fillSlot slot value block).toList = none := by
  intro r bound
  obtain ⟨source, compiled⟩ := compiled r bound
  have spared := spared r bound
  rw [fillSlot_eq_filling, String.toList_ofList]
  unfold filling at spared ⊢
  rw [bound] at spared ⊢
  exact Pattern.findIn_filling (Pattern.framed_of_compile? compiled) spared

/-- Filling a slot makes no match of another pattern that keeps clear of what is put in. -/
theorem unmatched_fillSlot_of_unmatched {p : Pattern} {source : String}
    (compiled : Pattern.compile? source = some p) (unmatched : p.findIn none block.toList = none)
    (spared : (a.filling slot value block).SparedBy p) :
    p.findIn none (a.fillSlot slot value block).toList = none := by
  rw [fillSlot_eq_filling, String.toList_ofList]
  unfold filling at spared ⊢
  split
  · exact unmatched
  · rename_i r bound
    rw [bound] at spared
    exact Pattern.findIn_filling_of_unmatched (Pattern.framed_of_compile? compiled) unmatched spared

/-- If no match of a slot that has been filled reaches a text put into the block, rendering the
block again changes nothing. -/
theorem renderFailure_idempotent (a : Assemblage) (block : String) (failure : FetchFailure)
    (compiled : ∀ slot ∈ ["ERROR_STATUS", "ERROR_TEXT"], ∀ r, a.slot? slot = some r →
      ∃ source, Pattern.compile? source = some r.pattern)
    (status : ∀ r, a.slot? "ERROR_STATUS" = some r →
      (a.statusFilling block failure).SparedBy r.pattern)
    (both : ∀ slot ∈ ["ERROR_STATUS", "ERROR_TEXT"], ∀ r, a.slot? slot = some r →
      (a.textFilling block failure).SparedBy r.pattern) :
    a.renderFailure (a.renderFailure block failure) failure = a.renderFailure block failure := by
  have compiledStatus := compiled "ERROR_STATUS" (by simp)
  have first := unmatched_fillSlot compiledStatus status
  have text := unmatched_fillSlot (compiled "ERROR_TEXT" (by simp)) (both "ERROR_TEXT" (by simp))
  have again : ∀ r, a.slot? "ERROR_STATUS" = some r →
      r.pattern.findIn none (a.renderFailure block failure).toList = none := by
    intro r bound
    obtain ⟨source, compiled⟩ := compiledStatus r bound
    have spared := both "ERROR_STATUS" (by simp) r bound
    exact unmatched_fillSlot_of_unmatched compiled (first r bound) spared
  calc a.renderFailure (a.renderFailure block failure) failure
      = a.fillSlot "ERROR_TEXT" failure.text
          (a.fillSlot "ERROR_STATUS" (toString failure.status) (a.renderFailure block failure)) := rfl
    _ = a.fillSlot "ERROR_TEXT" failure.text (a.renderFailure block failure) := by
      rw [fillSlot_of_unmatched again]
    _ = a.renderFailure block failure := fillSlot_of_unmatched text

theorem compile?_compiled {source : String} (compiles : (Pattern.compile? source).isSome = true) :
    Pattern.compile? source = some (compiled source) := by
  obtain ⟨p, here⟩ := Option.isSome_iff_exists.1 compiles
  rw [compiled, here, Option.getD_some]

/-- Slots whose places are marked by brackets. -/
def bracketed : Assemblage :=
  ((make "page").withError "ERROR_STATUS" ⟨compiled "\\[CODE\\]", "[*]"⟩).withError "ERROR_TEXT"
    ⟨compiled "\\[[A-Z]+\\]", "*!"⟩

/-- A status that is put in between the brackets that it was named by. -/
theorem renderFailure_idempotent_bracketed :
    (∀ slot ∈ ["ERROR_STATUS", "ERROR_TEXT"], ∀ r, bracketed.slot? slot = some r →
      ∃ source, Pattern.compile? source = some r.pattern) ∧
    (∀ r, bracketed.slot? "ERROR_STATUS" = some r →
      (bracketed.statusFilling "<b>[CODE] [TEXT]</b>" (.failed 404 (some "gone"))).SparedBy
        r.pattern) ∧
    (∀ slot ∈ ["ERROR_STATUS", "ERROR_TEXT"], ∀ r, bracketed.slot? slot = some r →
      (bracketed.textFilling "<b>[CODE] [TEXT]</b>" (.failed 404 (some "gone"))).SparedBy
        r.pattern) ∧
    bracketed.renderFailure (bracketed.renderFailure "<b>[CODE] [TEXT]</b>"
      (.failed 404 (some "gone"))) (.failed 404 (some "gone")) = "<b>[404] gone!</b>" := by
  have compiled : ∀ slot ∈ ["ERROR_STATUS", "ERROR_TEXT"], ∀ r, bracketed.slot? slot = some r →
      ∃ source, Pattern.compile? source = some r.pattern := by
    intro slot member r bound
    simp only [List.mem_cons, List.not_mem_nil, or_false] at member
    rcases member with rfl | rfl
    · cases bound
      exact ⟨"\\[CODE\\]", compile?_compiled (by decide +kernel)⟩
    · cases bound
      exact ⟨"\\[[A-Z]+\\]", compile?_compiled (by decide +kernel)⟩
  have status : ∀ p ∈ (bracketed.slot? "ERROR_STATUS").map Replacer.pattern,
      (bracketed.statusFilling "<b>[CODE] [TEXT]</b>" (.failed 404 (some "gone"))).SparedBy p := by
    decide +kernel
  have both : ∀ slot ∈ ["ERROR_STATUS", "ERROR_TEXT"],
      ∀ p ∈ (bracketed.slot? slot).map Replacer.pattern,
      (bracketed.textFilling "<b>[CODE] [TEXT]</b>" (.failed 404 (some "gone"))).SparedBy p := by
    decide +kernel
  have status' : ∀ r, bracketed.slot? "ERROR_STATUS" = some r →
      (bracketed.statusFilling "<b>[CODE] [TEXT]</b>" (.failed 404 (some "gone"))).SparedBy
        r.pattern := fun r bound => status r.pattern (by rw [bound]; rfl)
  have both' : ∀ slot ∈ ["ERROR_STATUS", "ERROR_TEXT"], ∀ r, bracketed.slot? slot = some r →
      (bracketed.textFilling "<b>[CODE] [TEXT]</b>" (.failed 404 (some "gone"))).SparedBy
        r.pattern := fun slot member r bound => both slot member r.pattern (by rw [bound]; rfl)
  refine ⟨compiled, status', both', ?_⟩
  rw [renderFailure_idempotent bracketed _ _ compiled status' both']
  decide +kernel

/-- A slot whose status stands for a bracketed name and its brackets. -/
def unbracketing : Assemblage :=
  (make "page").withError "ERROR_STATUS" ⟨compiled "\\[(CODE|404)\\]", "*"⟩

/-- What is put in has no match of its own, but one with the brackets that it is put between. -/
theorem renderFailure_again_between_brackets :
    (∀ p ∈ (unbracketing.slot? "ERROR_STATUS").map Replacer.pattern,
      ∀ template ∈ (unbracketing.slot? "ERROR_STATUS").map Replacer.template,
        p.isMatch (Text.replaceChar '*' "404" template) = false) ∧
    unbracketing.slot? "ERROR_TEXT" = none ∧
    unbracketing.renderFailure "[[CODE]]" (.failed 404 none) = "[404]" ∧
    unbracketing.renderFailure (unbracketing.renderFailure "[[CODE]]" (.failed 404 none))
      (.failed 404 none) = "404" := by
  decide +kernel

end Transclusion.Assemblage
