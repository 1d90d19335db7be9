import Transclusion.Proofs.Repository

/-!
# Fields with patterns

The patterns of a configuration stand in fields that have a name and an order. Compiling the
configuration goes through them in this order, and stops at the first whose text is no pattern.

## Main results

`Config.checks`: compiling fails at the first field that holds no pattern, and only there.
-/

namespace Transclusion

variable {α β : Type}

/-- A field that holds a pattern: its full name and its text. -/
structure PatternField where
  name : String
  source : String
deriving DecidableEq, Repr

def PatternField.IsPattern (f : PatternField) : Prop :=
  (Pattern.compile? f.source).isSome = true

instance (f : PatternField) : Decidable f.IsPattern :=
  inferInstanceAs (Decidable (_ = true))

/-! ### The fields of a configuration -/

def ReplacerRule.fields (r : ReplacerRule) (field : String → String) : List PatternField :=
  [⟨field "pattern", r.pattern⟩]

def MatcherRule.fields (m : MatcherRule) (field : String → String) : List PatternField :=
  ⟨field "pattern", m.pattern⟩ :: m.reference.toList.map fun source => ⟨field "reference", source⟩

def ResourceRule.fields (r : ResourceRule) (field : String) : List PatternField :=
  ⟨field ++ ".uri", r.uri⟩ :: r.headers.map (fun h => ⟨field ++ ".headers." ++ h.1, h.2⟩) ++
    (r.matchers.mapIdx fun k m => m.fields fun part => s!"{field}.matchers[{k}].{part}").flatten

def AssemblageRule.fields (a : AssemblageRule) : List PatternField :=
  a.errors.flatMap (fun s => s.2.fields fun part => s!"{a.id}.errors.{s.1}.{part}") ++
    (a.adjusters.mapIdx fun k r => r.fields fun part => s!"{a.id}.adjusters[{k}].{part}").flatten ++
    (a.resources.mapIdx fun k r => r.fields s!"{a.id}.resources[{k}]").flatten

def Config.fields (c : Config) : List PatternField :=
  c.assemblages.flatMap (·.fields)

/-! ### Checks of fields -/

/-- Whether a computation succeeds if some fields all hold patterns, and else names the first one
that does not. -/
inductive Checks (fields : List PatternField) : Except ConfigFault α → Prop where
  | passed {a : α} (patterns : ∀ f ∈ fields, f.IsPattern) : Checks fields (.ok a)
  | failed {k : Nat} {f : PatternField} (first : FirstAt (¬ ·.IsPattern) fields k f) :
      Checks fields (.error (.invalidPattern f.name))

namespace Checks

variable {x : Except ConfigFault α} {fields others : List PatternField}

theorem done (a : α) : Checks [] (.ok a) :=
  .passed (by simp)

theorem field (name source : String) : Checks [⟨name, source⟩] (compilePattern name source) := by
  unfold compilePattern
  split
  next p compiled => exact .passed (by simp [PatternField.IsPattern, compiled])
  next invalid =>
    have fails : ¬ PatternField.IsPattern ⟨name, source⟩ := by
      simp [PatternField.IsPattern, invalid]
    exact .failed (.head fails)

theorem bind (checks : Checks fields x) {f : α → Except ConfigFault β}
    (next : ∀ a, Checks others (f a)) : Checks (fields ++ others) (x >>= f) := by
  cases checks with
  | failed first => exact .failed (first.append_left others)
  | @passed a patterns =>
    change Checks (fields ++ others) (f a)
    have rest := next a
    generalize f a = y at rest ⊢
    -- What follows is counted from the end of the fields that have passed.
    cases rest with
    | passed patterns' => exact .passed (List.forall_mem_append.2 ⟨patterns, patterns'⟩)
    | failed first =>
      exact .failed (first.append_right fun f member => not_not.2 (patterns f member))

/-- What follows without fields does not change which fields are checked. -/
theorem andThen (checks : Checks fields x) {f : α → Except ConfigFault β}
    (next : ∀ a, Checks [] (f a)) : Checks fields (x >>= f) := by
  simpa using checks.bind next

theorem eachIndexed {step : Nat → α → Except ConfigFault β} {fields : Nat → α → List PatternField}
    (each : ∀ k a, Checks (fields k a) (step k a)) (as : List α) :
    Checks (as.mapIdx fields).flatten (eachIndexed step 0 as) := by
  -- The positions of a rest of the list do not start from zero.
  have shifted : ∀ k, Checks (as.mapIdx fun i => fields (k + i)).flatten
      (Transclusion.eachIndexed step k as) := by
    induction as with
    | nil => exact fun _ => .done []
    | cons a as ih =>
      intro k
      rw [List.mapIdx_cons, List.flatten_cons]
      refine (each k a).bind fun b => ?_
      simpa [Nat.add_assoc, Nat.add_comm 1] using (ih (k + 1)).andThen fun bs => .done (b :: bs)
  simpa using shifted 0

/-- A step that does not ask for positions. -/
theorem eachOf {step : α → Except ConfigFault β} {fields : α → List PatternField}
    (each : ∀ a, Checks (fields a) (step a)) (as : List α) :
    Checks (as.flatMap fields) (Transclusion.eachIndexed (fun _ => step) 0 as) := by
  have positions : as.mapIdx (fun _ => fields) = as.map fields := by
    induction as with
    | nil => rfl
    | cons a as ih => rw [List.mapIdx_cons, List.map_cons, ih]
  rw [List.flatMap_def, ← positions]
  exact eachIndexed (fun _ => each) as

end Checks

/-! ### Rules -/

theorem ReplacerRule.checks (r : ReplacerRule) (field : String → String) :
    Checks (r.fields field) (r.compile field) :=
  (Checks.field _ _).andThen fun _ => .done _

theorem MatcherRule.checks (m : MatcherRule) (field : String → String) :
    Checks (m.fields field) (m.compile field) := by
  refine (Checks.field _ _).bind fun p => ?_
  cases m.reference with
  | none => exact .done _
  | some source => exact (Checks.field _ _).andThen fun _ => .done _

theorem ResourceRule.checks (r : ResourceRule) (field : String) :
    Checks (r.fields field) (r.compile field) := by
  have header : ∀ h : String × String, Checks [⟨field ++ ".headers." ++ h.1, h.2⟩]
      (do .ok (h.1, ← compilePattern (field ++ ".headers." ++ h.1) h.2)) :=
    fun h => (Checks.field _ _).andThen fun _ => .done _
  have headers := Checks.eachOf header r.headers
  have matchers := Checks.eachIndexed
    (fun k (m : MatcherRule) => m.checks fun part => s!"{field}.matchers[{k}].{part}") r.matchers
  rw [fields, List.map_eq_flatMap, List.cons_append, ← List.singleton_append]
  exact (Checks.field _ _).bind fun _ => headers.bind fun _ => matchers.andThen fun _ => .done _

theorem AssemblageRule.checks (a : AssemblageRule) : Checks a.fields a.compile := by
  have slot : ∀ s : String × ReplacerRule,
      Checks (s.2.fields fun part => s!"{a.id}.errors.{s.1}.{part}")
        (do .ok (s.1, ← s.2.compile fun part => s!"{a.id}.errors.{s.1}.{part}")) :=
    fun s => (s.2.checks _).andThen fun _ => .done _
  have slots := Checks.eachOf slot a.errors
  have adjusters := Checks.eachIndexed
    (fun k (r : ReplacerRule) => r.checks fun part => s!"{a.id}.adjusters[{k}].{part}") a.adjusters
  have resources := Checks.eachIndexed
    (fun k (r : ResourceRule) => r.checks s!"{a.id}.resources[{k}]") a.resources
  rw [fields, List.append_assoc]
  exact slots.bind fun _ => adjusters.bind fun _ => resources.andThen fun _ => .done _

theorem Config.checks (c : Config) : Checks c.fields c.catalog := by
  have entry : ∀ a : AssemblageRule, Checks a.fields
      (do let c ← a.compile; .ok (c.1, a.contentTypes, c.2)) :=
    fun a => a.checks.andThen fun _ => .done _
  exact (Checks.eachOf entry c.assemblages).andThen fun _ => .done _

end Transclusion
