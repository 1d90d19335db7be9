import Transclusion.Proofs.Pattern.Leftmost
import Transclusion.Proofs.Pattern.Range

/-!
# Filled texts

A text whose matches have been replaced consists of stretches that were kept and texts that were put
between them. Replacing leaves no match inside a stretch. So a new match can only come from a text
that was put in, from one of its ends, or from what has come to stand next to it.

## Main results

`findIn_filling`: if no match reaches a text that was put in, there is none at all.
`findIn_filling_of_unmatched`: likewise for a pattern without a match in the text that was filled.
-/

namespace Transclusion

/-- A text as stretches that were kept, each with the text put in after it, and what follows. -/
structure Filling where
  pieces : List (List Char × List Char)
  tail : List Char

namespace Filling

def text (f : Filling) : List Char :=
  f.pieces.flatMap (fun piece => piece.1 ++ piece.2) ++ f.tail

/-- Where the texts that were put in begin and end, if the pieces begin at a position. -/
def spansFrom (pos : Nat) : List (List Char × List Char) → List (Nat × Nat)
  | [] => []
  | (kept, put) :: pieces =>
    (pos + kept.length, pos + kept.length + put.length) ::
      spansFrom (pos + kept.length + put.length) pieces

def spans (f : Filling) : List (Nat × Nat) := spansFrom 0 f.pieces

/-- Whether the match of a pattern, if there is one, keeps clear of the texts that were put in: it
neither overlaps nor touches one. -/
def SparedBy (f : Filling) (p : Pattern) : Prop :=
  ∀ found ∈ p.findIn none f.text, ∀ span ∈ f.spans,
    found.1 + found.2.1 < span.1 ∨ span.2 < found.1

instance (f : Filling) (p : Pattern) : Decidable (f.SparedBy p) :=
  inferInstanceAs (Decidable (∀ _ ∈ _, ∀ _ ∈ _, _))

end Filling

namespace Pattern

/-- A text with its matches replaced. -/
def filling (p : Pattern) (text : String) (by_ : Match → List Char) : Filling :=
  ⟨(p.cut text).pieces.map fun piece => (piece.1.toList, by_ piece.2), (p.cut text).tail.toList⟩

theorem replaceAll_eq_filling (p : Pattern) (text : String) (by_ : Match → List Char) :
    p.replaceAll text by_ = String.ofList (p.filling text by_).text := by
  simp only [replaceAll, filling, Filling.text, List.flatMap_map]

/-- Whether a pattern has no match inside a stretch of text. A match at an end counts only where the
whole text begins or ends, since elsewhere it depends on what stands next to it. -/
def Bare (p : Pattern) (opens closes : Bool) (stretch : List Char) : Prop :=
  ∀ front mid post, stretch = front ++ (mid ++ post) → (front = [] → opens = true) →
    (post = [] → closes = true) → ¬ p.Matches front.getLast? mid post.head?

/-- Whether a pattern has no match inside any stretch that was kept. -/
def BareAround (p : Pattern) (tail : List Char) : Bool → List (List Char × List Char) → Prop
  | opens, [] => p.Bare opens true tail
  | opens, (kept, _) :: pieces => p.Bare opens false kept ∧ BareAround p tail false pieces

variable {p : Pattern}

theorem lastOr_append (before : Option Char) (front back : List Char) :
    lastOr before (front ++ back) = lastOr (lastOr before front) back := by
  simp [lastOr, List.getLast?_append, Option.or_assoc]

theorem lastOr_eq_getLast? {before : Option Char} {front : List Char}
    (edge : front = [] → before = none) : lastOr before front = front.getLast? := by
  cases front with
  | nil => rw [edge rfl, lastOr, Option.or_none]
  | cons c front => rw [lastOr, List.getLast?_cons, Option.some_or]

/-- A stretch of a text without a match. -/
theorem bare_of_unmatched (framed : p.program.Framed) {done stretch after : List Char}
    (unmatched : p.findIn none (done ++ (stretch ++ after)) = none) {opens closes : Bool}
    (opening : opens = true → done = []) (closing : closes = true → after = []) :
    p.Bare opens closes stretch := by
  rintro front mid post rfl begins ends matched
  have left : lastOr none (done ++ front) = front.getLast? := by
    rw [lastOr_append]
    apply lastOr_eq_getLast?
    intro empty
    rw [opening (begins empty)]
    rfl
  have right : (post ++ after).head? = post.head? := by
    cases post with
    | nil =>
      rw [closing (ends rfl)]
      rfl
    | cons c post => rfl
  rw [← left, ← right] at matched
  obtain ⟨start, size, groups, found, _⟩ := findIn_leftmost framed matched
  simp only [List.append_assoc] at unmatched found
  rw [unmatched] at found
  cases found

theorem bareAround_of_unmatched (framed : p.program.Framed) (by_ : Match → List Char)
    (done : List Char) {c : Cut} (unmatched : p.findIn none (done ++ c.text) = none) {opens : Bool}
    (opening : opens = true → done = []) :
    p.BareAround c.tail.toList opens (c.pieces.map fun piece => (piece.1.toList, by_ piece.2)) := by
  obtain ⟨pieces, tail⟩ := c
  induction pieces generalizing done opens with
  | nil =>
    apply bare_of_unmatched framed _ opening fun _ => rfl
    rwa [List.append_nil]
  | cons piece pieces ih =>
    obtain ⟨gap, m⟩ := piece
    have shape : (⟨(gap, m) :: pieces, tail⟩ : Cut).text =
        gap.toList ++ (m.whole.toList ++ (⟨pieces, tail⟩ : Cut).text) := by
      simp [Cut.text]
    rw [shape] at unmatched
    have inside {q : Prop} (edge : false = true) : q := absurd edge Bool.false_ne_true
    refine ⟨bare_of_unmatched framed unmatched opening inside, ?_⟩
    rw [← List.append_assoc, ← List.append_assoc, List.append_assoc done] at unmatched
    exact ih _ inside unmatched

/-- The places where cutting goes on: at the beginning of the text, right after a match, and one
character further if the match that was found there is not counted. -/
inductive Resumes : Bool → Option Char → Bool → List Char → Prop where
  | opening : Resumes true none false []
  | touching (before : Option Char) : Resumes false before true []
  | skipped (c : Char) : Resumes false (some c) false [c]

/-- What comes before a match that may count, apart from the gap so far. -/
theorem Resumes.exists_front {opens touching : Bool} {before : Option Char}
    {gap rest front more : List Char} (resumes : Resumes opens before touching gap)
    (split : gap ++ rest = front ++ more) (begins : front = [] → opens = true) :
    ∃ front', rest = front' ++ more ∧ lastOr before front' = front.getLast? := by
  cases resumes with
  | opening => exact ⟨front, split, lastOr_eq_getLast? fun _ => rfl⟩
  | touching before =>
    refine ⟨front, split, lastOr_eq_getLast? fun empty => ?_⟩
    cases begins empty
  | skipped c =>
    cases front with
    | nil => cases begins rfl
    | cons d front =>
      cases split
      refine ⟨front, rfl, ?_⟩
      simp [lastOr, List.getLast?_cons]

/-- Cutting at the matches of a pattern leaves none inside a gap. -/
theorem bareAround_cutFrom (framed : p.program.Framed) (by_ : Match → List Char) (fuel : Nat)
    {opens touching : Bool} {before : Option Char} {gap rest : List Char}
    (resumes : Resumes opens before touching gap)
    (enough : 2 * rest.length + (if touching then 0 else 1) < fuel) :
    p.BareAround (p.cutFrom fuel before touching gap rest).tail.toList opens
      ((p.cutFrom fuel before touching gap rest).pieces.map fun piece =>
        (piece.1.toList, by_ piece.2)) := by
  induction fuel generalizing opens touching before gap rest with
  | zero => cases enough
  | succ fuel ih =>
    unfold cutFrom
    split
    next unmatched =>
      -- Nothing is left to be found, so what is left is the tail.
      intro front mid post split begins _ matched
      rw [String.toList_ofList] at split
      obtain ⟨front', rfl, left⟩ := resumes.exists_front split begins
      rw [← left] at matched
      obtain ⟨_, _, _, found, _⟩ := findIn_leftmost framed matched
      rw [unmatched] at found
      cases found
    next start size groups found =>
      have inside := p.findIn_within before rest found
      split
      next again =>
        obtain ⟨rfl, rfl, rfl⟩ := again
        cases resumes
        cases rest with
        | nil =>
          intro front mid post split begins _ _
          cases front with
          | nil => cases begins rfl
          | cons d front => cases split
        | cons c rest =>
          -- The character that is skipped joins the gap and becomes the left neighbour.
          refine ih (.skipped c) ?_
          rw [List.length_cons, if_pos rfl] at enough
          rw [if_neg Bool.false_ne_true]
          omega
      next counted =>
        refine ⟨?_, ih (.touching _) ?_⟩
        · intro front mid post split begins ends matched
          rw [String.toList_ofList] at split
          obtain ⟨front', split, left⟩ := resumes.exists_front split begins
          have long := congrArg List.length split
          simp only [List.length_take, List.length_append] at long
          -- In the gap it would begin before the match that was found.
          cases post with
          | nil => cases ends rfl
          | cons c post =>
            rw [← left] at matched
            obtain ⟨_, _, _, first, early⟩ := findIn_leftmost framed
              (show p.Matches _ mid (c :: post ++ rest.drop start).head? from matched)
            have whole : front' ++ (mid ++ (c :: post ++ rest.drop start)) = rest := by
              rw [← List.append_assoc mid, ← List.append_assoc, ← split, List.take_append_drop]
            rw [whole, found] at first
            cases first
            rw [List.length_cons] at long
            omega
        · rw [List.length_drop, if_pos rfl]
          cases touching with
          | false =>
            rw [if_neg Bool.false_ne_true] at enough
            omega
          | true =>
            rw [if_pos rfl] at enough
            simp only [true_and] at counted
            omega

/-- A match that keeps clear of what was put in stands inside one stretch. -/
theorem BareAround.not_matches {tail : List Char} {pieces : List (List Char × List Char)}
    {opens : Bool} (bare : p.BareAround tail opens pieces) (pos : Nat) {left : Option Char}
    {front mid post : List Char}
    (split : pieces.flatMap (fun piece => piece.1 ++ piece.2) ++ tail = front ++ (mid ++ post))
    (beginning : opens = true → left = none) (begins : front = [] → opens = true)
    (clear : ∀ span ∈ Filling.spansFrom pos pieces,
      pos + front.length + mid.length < span.1 ∨ span.2 < pos + front.length) :
    ¬ p.Matches (lastOr left front) mid post.head? := by
  induction pieces generalizing opens pos left front with
  | nil =>
    rw [lastOr_eq_getLast? fun empty => beginning (begins empty)]
    exact bare front mid post split begins fun _ => rfl
  | cons piece pieces ih =>
    obtain ⟨kept, put⟩ := piece
    obtain ⟨here, others⟩ := bare
    obtain ⟨first, clear⟩ := List.forall_mem_cons.1 clear
    rw [List.flatMap_cons, List.append_assoc] at split
    dsimp only at first split
    rcases first with before | behind
    · -- It ends inside the stretch, so what follows it there is not empty.
      rw [List.append_assoc, ← List.append_assoc front] at split
      rcases List.append_eq_append_iff.1 split with ⟨excess, eq, _⟩ | ⟨after, rfl, rfl⟩
      · have long := congrArg List.length eq
        simp only [List.length_append] at long
        omega
      · cases after with
        | nil =>
          simp only [List.length_append, List.length_nil] at before
          omega
        | cons c after =>
          rw [lastOr_eq_getLast? fun empty => beginning (begins empty)]
          exact here front mid (c :: after) (List.append_assoc _ _ _) begins nofun
    · -- It begins behind the text that was put in.
      rcases List.append_eq_append_iff.1 split with ⟨front, rfl, rest⟩ | ⟨excess, eq, _⟩
      · rw [List.length_append, List.length_append] at behind clear
        rw [lastOr_append]
        refine ih others (pos + kept.length + put.length) rest (fun opens => ?_) (fun empty => ?_) ?_
        · cases opens
        · rw [empty, List.length_nil] at behind
          omega
        · simpa only [Nat.add_assoc] using clear
      · have long := congrArg List.length eq
        simp only [List.length_append] at long
        omega

theorem bareAround_filling (framed : p.program.Framed) (text : String)
    (by_ : Match → List Char) :
    p.BareAround (p.filling text by_).tail true (p.filling text by_).pieces :=
  bareAround_cutFrom framed by_ _ .opening (by rw [if_neg Bool.false_ne_true]; omega)

theorem findIn_of_bareAround (framed : p.program.Framed) {f : Filling}
    (bare : p.BareAround f.tail true f.pieces) (spared : f.SparedBy p) :
    p.findIn none f.text = none := by
  cases found : p.findIn none f.text with
  | none => rfl
  | some place =>
    obtain ⟨start, size, groups⟩ := place
    have clear := spared _ found
    obtain ⟨front, mid, post, split, rfl, rfl, matched⟩ := findIn_sound framed found
    rw [List.append_assoc] at split
    refine absurd matched (bare.not_matches 0 split (fun _ => rfl) (fun _ => rfl) ?_)
    rw [Nat.zero_add]
    exact clear

/-- If no match of the pattern reaches a text that was put in for one, there is none at all. -/
theorem findIn_filling (framed : p.program.Framed) {text : String} {by_ : Match → List Char}
    (spared : (p.filling text by_).SparedBy p) : p.findIn none (p.filling text by_).text = none :=
  findIn_of_bareAround framed (bareAround_filling framed text by_) spared

/-- If a pattern had no match, it has none that does not reach a text that was put in. -/
theorem findIn_filling_of_unmatched (framed : p.program.Framed) {q : Pattern} {text : String}
    {by_ : Match → List Char} (unmatched : p.findIn none text.toList = none)
    (spared : (q.filling text by_).SparedBy p) :
    p.findIn none (q.filling text by_).text = none := by
  rw [← q.text_cut text] at unmatched
  exact findIn_of_bareAround framed
    (bareAround_of_unmatched framed by_ [] unmatched fun _ => rfl) spared

theorem replaceAll_of_unmatched {text : String} (unmatched : p.findIn none text.toList = none)
    (by_ : Match → List Char) : p.replaceAll text by_ = text := by
  have uncut : p.cut text = ⟨[], text⟩ := by
    unfold cut cutFrom
    rw [unmatched]
    simp
  rw [replaceAll, uncut]
  simp

end Pattern

end Transclusion
