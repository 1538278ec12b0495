import Mathlib.Data.List.Induction
import WindowDoc.Proofs.Cursor.Basic

namespace WindowDoc

open Segmentation

namespace Position

-- The position behind a text, told by what stands in it: a line more for every line feed, and a
-- column more for every character since the last one.
def behind (cs : List Char) : Position :=
  ⟨1 + cs.count '\n', 1 + (cs.reverse.takeWhile (· != '\n')).length⟩

theorem after_start (cs : List Char) : start.after cs = behind cs := by
  induction cs using List.reverseRecOn with
  | nil => rfl
  | append_singleton cs c ih =>
      rw [after_append, ih]
      by_cases hline : c = '\n'
      · subst hline
        simp [after, advance, behind, Nat.add_assoc]
      · simp [after, advance, behind, hline, Nat.add_comm]

-- Neither a carriage return nor a line separator begins a line.
example : behind "a\r\u2028b\nä".toList = ⟨2, 2⟩ := by decide

-- The order in which positions are read.
def Before (p q : Position) : Prop := p.line < q.line ∨ p.line = q.line ∧ p.column < q.column

theorem Before.trans {p q r : Position} (h : p.Before q) (h' : q.Before r) : p.Before r := by
  unfold Before at *
  omega

theorem before_advance (p : Position) (c : Char) : p.Before (p.advance c) := by
  unfold Before advance
  split
  · left
    exact Nat.lt_succ_self p.line
  · right
    exact ⟨rfl, Nat.lt_succ_self p.column⟩

theorem before_after (p : Position) {cs : List Char} (h : cs ≠ []) : p.Before (p.after cs) := by
  induction cs generalizing p with
  | nil => exact absurd rfl h
  | cons c cs ih =>
      have hfirst := p.before_advance c
      by_cases hcs : cs = []
      · subst hcs
        exact hfirst
      · exact hfirst.trans (ih (p.advance c) hcs)

end Position

namespace Cursor

-- The byte at which the text goes on.
def offset (source : String) (cursor : Cursor) : String.Pos.Raw :=
  ⟨source.utf8ByteSize - (String.ofList cursor.rest).utf8ByteSize⟩

-- The text up to the place, and the position that comes of it.
structure Tracks (source : String) (cursor : Cursor) (consumed : List Char) : Prop where
  text : source.toList = consumed ++ cursor.rest
  position_eq : cursor.position = Position.start.after consumed

variable {source : String} {cursor : Cursor} {consumed skipped taken : List Char}

theorem Tracks.start (source : String) : Tracks source (ofText source) [] := ⟨rfl, rfl⟩

theorem Tracks.offset_eq (h : Tracks source cursor consumed) :
    cursor.offset source = (String.ofList consumed).rawEndPos := by
  have hsource : source = String.ofList consumed ++ String.ofList cursor.rest := by
    rw [← String.ofList_append, ← h.text, String.ofList_toList]
  have hsize := congrArg String.utf8ByteSize hsource
  rw [String.utf8ByteSize_append] at hsize
  rw [offset, hsize, Nat.add_sub_cancel]
  rfl

theorem Tracks.offset_isValid (h : Tracks source cursor consumed) :
    (cursor.offset source).IsValid source := by
  rw [String.Pos.Raw.isValid_iff_exists_append]
  refine ⟨String.ofList consumed, String.ofList cursor.rest, ?_, h.offset_eq⟩
  rw [← String.ofList_append, ← h.text, String.ofList_toList]

-- One question leads on by what is skipped and what is taken.
theorem Tracks.next (h : Tracks source cursor consumed) (hreads : cursor.Reads skipped taken) :
    Tracks source cursor.next.2 (consumed ++ (skipped ++ taken)) where
  text := by rw [h.text, hreads.rest_eq, List.append_assoc, List.append_assoc]
  position_eq := by
    rw [hreads.position_eq, h.position_eq]
    simp only [Position.after_append]

theorem Tracks.moved (h : Tracks source cursor consumed) (count : Nat) :
    ∃ more, Tracks source (cursor.moved count) (consumed ++ more) := by
  induction count with
  | zero => exact ⟨[], by rwa [List.append_nil]⟩
  | succ count ih =>
      obtain ⟨more, hmore⟩ := ih
      obtain ⟨skipped, taken, hreads⟩ := (cursor.moved count).exists_reads
      refine ⟨more ++ (skipped ++ taken), ?_⟩
      rw [moved_succ, ← List.append_assoc]
      exact hmore.next hreads

theorem exists_tracks (source : String) (count : Nat) :
    ∃ consumed, Tracks source ((ofText source).moved count) consumed := by
  obtain ⟨consumed, htracks⟩ := (Tracks.start source).moved count
  exact ⟨consumed, htracks⟩

theorem Tracks.placed_eq (h : Tracks source cursor consumed) (hreads : cursor.Reads skipped taken) :
    placed cursor.next.1 = Position.start.after (consumed ++ skipped) := by
  rw [hreads.placed_eq, h.position_eq, Position.after_append]

-- Whatever is answered after a lexeme is about a later place.
theorem before_of_lt {source : String} {i j : Nat} (hlt : i < j) {lexeme : Lexeme}
    (hanswer : ((ofText source).moved i).next.1 = .ok lexeme) (htoken : lexeme.token ≠ .eof) :
    lexeme.position.Before (placed ((ofText source).moved j).next.1) := by
  obtain ⟨consumed, htracks⟩ := exists_tracks source i
  obtain ⟨skipped, taken, hreads⟩ := ((ofText source).moved i).exists_reads
  obtain ⟨more, hmore⟩ := (htracks.next hreads).moved (j - (i + 1))
  rw [← moved_succ, ← moved_add, Nat.add_sub_of_le hlt] at hmore
  obtain ⟨skipped', taken', hreads'⟩ := ((ofText source).moved j).exists_reads
  have hplaced := htracks.placed_eq hreads
  rw [hanswer, placed] at hplaced
  have hbetween : taken ++ (more ++ skipped') ≠ [] := by
    simp [hreads.taken_ne_nil hanswer htoken]
  have htext : consumed ++ (skipped ++ taken) ++ more ++ skipped' =
      consumed ++ skipped ++ (taken ++ (more ++ skipped')) := by
    simp only [List.append_assoc]
  rw [hmore.placed_eq hreads', htext, Position.after_append _ (consumed ++ skipped), ← hplaced]
  exact Position.before_after _ hbetween

-- However often a text is asked, and whatever the answers are, the reading place is at a character
-- and its line and column are those of the text before it. An answer is about the first character
-- behind the trivia that come next, so that the positions of the lexemes ascend.
theorem positions_tracked (source : String) :
    (∀ count, ∃ consumed skipped left,
      source.toList = consumed ++ ((ofText source).moved count).rest ∧
      (((ofText source).moved count).offset source).IsValid source ∧
      ((ofText source).moved count).offset source = (String.ofList consumed).rawEndPos ∧
      ((ofText source).moved count).position = .behind consumed ∧
      ((ofText source).moved count).rest = skipped ++ left ∧ Trivia left skipped ∧ Solid left ∧
      placed ((ofText source).moved count).next.1 = .behind (consumed ++ skipped) ∧
      ∀ l, ((ofText source).moved count).next.1 = .ok l → l.token = .eof →
        source.toList = consumed ++ skipped) ∧
    ∀ i j l l', i < j → ((ofText source).moved i).next.1 = .ok l → l.token ≠ .eof →
      ((ofText source).moved j).next.1 = .ok l' → l.position.Before l'.position := by
  constructor
  · intro count
    obtain ⟨consumed, htracks⟩ := exists_tracks source count
    obtain ⟨skipped, taken, hreads⟩ := ((ofText source).moved count).exists_reads
    refine ⟨consumed, skipped, _, htracks.text, htracks.offset_isValid, htracks.offset_eq, ?_,
      hreads.rest_eq, hreads.trivia, hreads.solid, ?_, fun l hanswer htoken => ?_⟩
    · rw [htracks.position_eq, Position.after_start]
    · rw [htracks.placed_eq hreads, Position.after_start]
    · obtain ⟨rfl, hleft⟩ := hreads.left_eq_nil hanswer htoken
      rw [htracks.text, hreads.rest_eq, hleft, List.append_nil, List.append_nil]
  · intro i j l l' hlt hanswer htoken hanswer'
    have hbefore := before_of_lt hlt hanswer htoken
    rwa [hanswer'] at hbefore

end Cursor

end WindowDoc
