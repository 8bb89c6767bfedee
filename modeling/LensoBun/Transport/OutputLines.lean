import Mathlib.Data.List.Basic
import Mathlib.Tactic

set_option autoImplicit false

/-! # The lines of a process's output

`read_bounded_line` (`transport/mod.rs`) over what `fill_buf` gives: a list of chunks, none of them
empty. `from_utf8_lossy` is a parameter; read errors are left out.
-/

namespace LensoBun.Transport

structure BoundedLine where
  text : String
  truncated : Bool

/-- The loop: the bytes retained and whether some were not, and the chunks that are left. -/
def readLoop (limit : Nat) (retained : List UInt8) (truncated : Bool) :
    List (List UInt8) → Option (List UInt8 × Bool) × List (List UInt8)
  | [] => (if retained = [] ∧ truncated = false then none else some (retained, truncated), [])
  | available :: chunks =>
    let newline := available.findIdx? (· = 10)
    let payloadEnd := newline.getD available.length
    let copied := min payloadEnd (limit - retained.length)
    let retained := retained ++ available.take copied
    let truncated := truncated || decide (copied < payloadEnd)
    match newline with
    | none => readLoop limit retained truncated chunks
    | some position =>
      let left := available.drop (position + 1)
      (some (retained, truncated), if left = [] then chunks else left :: chunks)

variable (lossy : List UInt8 → String)

def finish (retained : List UInt8) (truncated : Bool) : BoundedLine :=
  ⟨lossy (if retained.getLast? = some 13 then retained.dropLast else retained), truncated⟩

def readBoundedLine (limit : Nat) (chunks : List (List UInt8)) :
    Option BoundedLine × List (List UInt8) :=
  let (line, chunks) := readLoop limit [] false chunks
  (line.map fun (retained, truncated) => finish lossy retained truncated, chunks)

/-- The lines read until there is none, with a bound on how many. -/
def readLines (limit : Nat) : Nat → List (List UInt8) → Option (List BoundedLine)
  | 0, _ => none
  | fuel + 1, chunks =>
    match readBoundedLine lossy limit chunks with
    | (none, _) => some []
    | (some line, chunks) => (readLines limit fuel chunks).map (line :: ·)

/-- The lines of the bytes: one for each newline, and what is behind the last one unless it is
empty. -/
def lines : List UInt8 → List (List UInt8)
  | [] => []
  | byte :: bytes =>
    if byte = 10 then [] :: lines bytes
    else
      match lines bytes with
      | [] => [[byte]]
      | line :: rest => (byte :: line) :: rest

variable (limit : Nat)

theorem lines_newline {line : List UInt8} (h : 10 ∉ line) (bytes : List UInt8) :
    lines (line ++ 10 :: bytes) = line :: lines bytes := by
  induction line with
  | nil => rfl
  | cons byte line ih =>
    rw [List.mem_cons, not_or] at h
    simp [lines, ih h.2, Ne.symm h.1]

theorem lines_tail {line : List UInt8} (h : 10 ∉ line) (hne : line ≠ []) : lines line = [line] := by
  induction line with
  | nil => exact absurd rfl hne
  | cons byte line ih =>
    rw [List.mem_cons, not_or] at h
    rw [lines, if_neg (Ne.symm h.1)]
    by_cases hline : line = []
    · rw [hline, lines]
    · rw [ih h.2 hline]

/-- What a chunk adds to the retained bytes of the line and to the mark. -/
theorem retained_append (line available : List UInt8) {payloadEnd copied : Nat}
    (h : payloadEnd ≤ available.length)
    (hcopied : copied = min payloadEnd (limit - (line.take limit).length)) :
    line.take limit ++ available.take copied = (line ++ available.take payloadEnd).take limit ∧
      (decide (limit < line.length) || decide (copied < payloadEnd)) =
        decide (limit < (line ++ available.take payloadEnd).length) := by
  subst hcopied
  have hsub : limit - min limit line.length = limit - line.length := by omega
  constructor
  · rw [List.take_append, List.take_take, List.length_take, hsub, min_comm]
  · rw [List.length_append, List.length_take_of_le h, List.length_take, hsub]
    simp only [← Bool.decide_or, decide_eq_decide]
    omega

/-- The loop reads on in the line it has begun. -/
theorem readLoop_lines {line : List UInt8} {chunks : List (List UInt8)} (hline : 10 ∉ line)
    (hchunks : [] ∉ chunks) :
    ∃ left, readLoop limit (line.take limit) (decide (limit < line.length)) chunks =
        ((lines (line ++ chunks.flatten)).head?.map fun l => (l.take limit, decide (limit < l.length)),
          left) ∧
      [] ∉ left ∧ lines left.flatten = (lines (line ++ chunks.flatten)).tail := by
  induction chunks generalizing line with
  | nil =>
    by_cases hne : line = []
    · exact ⟨[], by simp [hne, readLoop, lines], hchunks, by simp [hne, lines]⟩
    · refine ⟨[], ?_, hchunks, by simp [lines_tail hline hne, lines]⟩
      have hkept : limit = 0 → limit < line.length := by
        rintro rfl
        exact List.length_pos_iff.mpr hne
      simpa [lines_tail hline hne, readLoop, hne] using hkept
  | cons available chunks ih =>
    rw [List.mem_cons, not_or] at hchunks
    cases hnewline : available.findIdx? (· = 10) with
    | none =>
      have hnot : 10 ∉ line ++ available := by grind
      obtain ⟨left, hleft⟩ := ih hnot hchunks.2
      have hretained := retained_append limit line available le_rfl rfl
      rw [List.take_length] at hretained
      simp only [readLoop, hnewline, Option.getD_none, hretained, List.flatten_cons]
      rw [← List.append_assoc]
      exact ⟨left, hleft⟩
    | some position =>
      obtain ⟨hlt, hbyte, hbefore⟩ := List.findIdx?_eq_some_iff_getElem.mp hnewline
      have hnot : 10 ∉ line ++ available.take position := by
        grind [List.mem_take_iff_getElem]
      have hdrop := List.drop_eq_getElem_cons hlt
      rw [of_decide_eq_true hbyte] at hdrop
      have hsplit : line ++ (available :: chunks).flatten = (line ++ available.take position) ++
          10 :: (available.drop (position + 1) ++ chunks.flatten) := by
        grind [List.take_append_drop position available]
      have hretained := retained_append limit line available hlt.le rfl
      simp only [readLoop, hnewline, Option.getD_some, hretained, hsplit, lines_newline hnot]
      refine ⟨_, rfl, ?_, ?_⟩ <;> grind

/-- **The lines that are read are the lines of the bytes, however these come in chunks.** -/
theorem readLines_eq (chunks : List (List UInt8)) (hchunks : [] ∉ chunks) (fuel : Nat)
    (hfuel : (lines chunks.flatten).length < fuel) :
    readLines lossy limit fuel chunks = some ((lines chunks.flatten).map fun line =>
      finish lossy (line.take limit) (decide (limit < line.length))) := by
  induction fuel generalizing chunks with
  | zero => simp at hfuel
  | succ fuel ih =>
    obtain ⟨left, hread, hleft, htail⟩ := readLoop_lines limit List.not_mem_nil hchunks
    simp only [List.nil_append, List.take_nil, List.length_nil, Nat.not_lt_zero, decide_false] at *
    rw [readLines, readBoundedLine, hread]
    cases hlines : lines chunks.flatten with
    | nil => rfl
    | cons line rest =>
      rw [hlines] at htail hfuel
      simp only [List.tail_cons] at htail
      simp [ih left hleft (by simpa [htail] using hfuel), htail]

theorem readLines_eq_sample :
    readLines (fun bytes => toString bytes) 2 4 [[97], [98, 13, 10, 13], [10, 99]] =
      some [⟨toString [97, 98], true⟩, ⟨"[]", false⟩, ⟨"[99]", false⟩] :=
  readLines_eq _ _ _ (by decide) 4 (by decide)

end LensoBun.Transport
