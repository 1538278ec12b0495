import WindowDoc.Proofs.Protocol.Theorems
import WindowDoc.Proofs.Segmentation.Literals
import WindowDoc.Proofs.Trailing
import WindowDoc.Proofs.Truncation

namespace WindowDoc

-- The numbers that a renderer is handed are those of the text, in order.

def Layout.numbers : Layout → List Int32
  | .flow => []
  | .grid rows columns gaps =>
      [rows, columns] ++ (gaps.toList.flatMap fun gaps => [gaps.horizontal, gaps.vertical])

-- The numbers of a call as a document writes them one after the other.
def Call.numbers : Call → List Int32
  | .createWindow _ _ width height => [width, height]
  | .setLayout _ layout => layout.numbers
  | .addTextField _ columns => [columns]
  | _ => []

def Token.numbers : Token → List Int32
  | .number value => [value.toInt32]
  | _ => []

namespace Grammar

-- A script that makes its calls with the numbers read since the call before, where `held` are the
-- ones that have been read already and `left` those that no call takes any more.
inductive Delivers : List Int32 → List (Token × Option Call) → List Int32 → Prop where
  | stay {held} : Delivers held [] held
  | silent {held token rest left} : Delivers (held ++ token.numbers) rest left →
      Delivers held ((token, none) :: rest) left
  | call {held token call rest left} : call.numbers = held ++ token.numbers →
      Delivers [] rest left → Delivers held ((token, some call) :: rest) left

namespace Delivers

variable {held between left : List Int32} {xs ys : List (Token × Option Call)}

theorem append (h : Delivers held xs between) (h' : Delivers between ys left) :
    Delivers held (xs ++ ys) left := by
  induction h with
  | stay => exact h'
  | silent _ ih => exact .silent (ih h')
  | call hcall _ ih => exact .call hcall (ih h')

theorem exists_of_append (h : Delivers held (xs ++ ys) left) :
    ∃ between, Delivers held xs between := by
  induction xs generalizing held with
  | nil => exact ⟨held, .stay⟩
  | cons x xs ih =>
      cases h with
      | silent hrest =>
          obtain ⟨between, hxs⟩ := ih hrest
          exact ⟨between, .silent hxs⟩
      | call hcall hrest =>
          obtain ⟨between, hxs⟩ := ih hrest
          exact ⟨between, .call hcall hxs⟩

-- Nothing is lost on the way, and the order is kept.
theorem numbers_eq (h : Delivers held xs left) :
    held ++ (xs.map Prod.fst).flatMap Token.numbers =
      (xs.filterMap Prod.snd).flatMap Call.numbers ++ left := by
  induction h with
  | stay => simp
  | silent _ ih => simpa using ih
  | call hcall _ ih =>
      simp only [List.nil_append] at ih
      simp [hcall, ih]

theorem of_silent (held : List Int32) (ts : List Token) :
    Delivers held (Grammar.silent ts) (held ++ ts.flatMap Token.numbers) := by
  induction ts generalizing held with
  | nil =>
      rw [List.flatMap_nil, List.append_nil]
      exact .stay
  | cons token ts ih =>
      have hrest := ih (held ++ token.numbers)
      rw [List.append_assoc] at hrest
      exact .silent hrest

theorem of_statement {ts : List Token} {last : Token} {call : Call}
    (h : call.numbers = ts.flatMap Token.numbers ++ last.numbers) :
    Delivers [] (statement ts last call) [] :=
  (of_silent [] ts).append (.call h .stay)

end Delivers

theorem Arrangement.delivers (home : ContainerId) (a : Arrangement) :
    Delivers [] (a.script home) [] := by
  apply Delivers.of_statement
  obtain _ | ⟨rows, columns, _ | ⟨horizontal, vertical⟩⟩ := a <;> rfl

theorem delivers_radios (group : GroupId) (home : ContainerId) (labels : List String) :
    Delivers [] (labels.flatMap (radioScript group home)) [] := by
  induction labels with
  | nil => exact .stay
  | cons label labels ih =>
      have hradio : Delivers [] (radioScript group home label) [] := .of_statement rfl
      exact hradio.append ih

theorem delivers_blockEnd : Delivers [] (silent blockEnd) [] := .of_silent [] blockEnd

mutual

theorem Element.delivers (home : ContainerId) (made begun : Nat) : (e : Element) →
    Delivers [] (e.script home made begun) []
  | .button _ | .label _ | .textField _ => .of_statement rfl
  | .group first others => by
      have hopening : Delivers [] (statement [] (.keyword .group) (.beginRadioGroup ⟨begun⟩)) [] :=
        .of_statement rfl
      have hradios := delivers_radios ⟨begun⟩ home (first :: others)
      exact (hopening.append hradios).append delivers_blockEnd
  | .panel arrangement first others => by
      have hopening : Delivers [] (statement [] (.keyword .panel) (.beginPanel home ⟨made⟩)) [] :=
        .of_statement rfl
      have hcontent := (Element.delivers ⟨made⟩ (made + 1) begun first).append
        (Element.deliversAll ⟨made⟩ (made + 1 + first.widget.panels) (begun + first.widget.groups)
          others)
      exact ((hopening.append (arrangement.delivers _)).append hcontent).append delivers_blockEnd

theorem Element.deliversAll (home : ContainerId) (made begun : Nat) : (es : List Element) →
    Delivers [] (scriptAll home made begun es) []
  | [] => .stay
  | e :: es => (Element.delivers home made begun e).append (Element.deliversAll home _ _ es)

end

theorem Document.delivers (d : Document) : Delivers [] d.script [] := by
  have hopening : Delivers [] (statement
      [.keyword .window, .string d.title, .openParen, .number d.width, .comma, .number d.height]
      .closeParen (.createWindow ⟨0⟩ d.title d.width.toInt32 d.height.toInt32)) [] :=
    .of_statement rfl
  have hcontent := (d.first.delivers ⟨0⟩ 1 0).append
    (Element.deliversAll ⟨0⟩ (1 + d.first.widget.panels) d.first.widget.groups d.others)
  have hclosing : Delivers [] (statement [.keyword .finish] .period (.showWindow ⟨0⟩)) [] :=
    .of_statement rfl
  exact ((hopening.append (d.arrangement.delivers _)).append hcontent).append hclosing

end Grammar

open Grammar

-- Whatever a document comes to, the calls have the numbers that were read first. If it is accepted
-- these are all numbers up to its period, and if there is a fault those up to where it cuts off are
-- there or still held.
theorem exists_numbers_recorded (limit : Nat) (source : String) :
    ∃ ls left, (Lexemes.ofText source).BeginsWith ls ∧
      (ls.map Lexeme.token).flatMap Token.numbers =
        (recorded limit source).state.calls.toList.flatMap Call.numbers ++ left ∧
      ((recorded limit source).result = .ok () → left = [] ∧ IsProgram (ls.map Lexeme.kind)) ∧
      ∀ fault, (recorded limit source).result = .error fault →
        CutOff limit (Lexemes.ofText source).items fault ls.length := by
  cases hresult : (recorded limit source).result with
  | ok _ =>
      rw [recorded, result_parse] at hresult
      obtain ⟨ls, hbegins, hderivable⟩ := (Reading.result_ofText_eq_ok_iff limit source).mp hresult
      obtain ⟨d, htokens, hdepth⟩ := hderivable.exists_document
      have hcalls := calls_recorded (Reading.events_ofText hbegins htokens hdepth)
      have hnumbers := d.delivers.numbers_eq
      rw [d.map_fst_script, d.filterMap_script, htokens, ← hcalls] at hnumbers
      refine ⟨ls, [], hbegins, hnumbers, fun _ => ⟨rfl, hderivable.isProgram⟩, ?_⟩
      rintro fault ⟨⟩
  | error fault =>
      rw [recorded, result_parse] at hresult
      obtain ⟨made, ⟨after, hsource⟩, ⟨place, depth, hwalk⟩, hcut⟩ := exists_made hresult
      obtain ⟨-, d, more, -, htokens, -⟩ := exists_completion hsource hwalk
      have hbegin : made.map Lexeme.token <+: d.tokens := by
        rw [htokens, List.map_append]
        exact List.prefix_append _ _
      obtain ⟨done, rest, hscript, hdone, hcalls⟩ := hwalk.exists_script hbegin
      have hdelivers := d.delivers
      rw [hscript, List.append_assoc] at hdelivers
      obtain ⟨left, hfront⟩ := hdelivers.exists_of_append
      have hnumbers := hfront.numbers_eq
      rw [hdone, ← hcalls, List.nil_append] at hnumbers
      refine ⟨made, left, ⟨after, hsource⟩, ?_, ?_, ?_⟩
      · rw [hnumbers, recorded, value_parse_streaming, state_parseStreaming, Reading.ofText]
      · rintro ⟨⟩
      · rintro _ ⟨rfl⟩
        exact hcut

namespace Segmentation

open Scan (Literal)

-- A piece of the text with the number literal that it is.
structure Piece.Writes (piece : Piece) (l : Literal) : Prop where
  wellFormed : l.WellFormed
  text : piece.text = l.text
  token : piece.token = .number l.decimal.toDouble

def isNumber (piece : Piece) : Bool := piece.token.kind == .number

theorem numbers_of_not_isNumber {piece : Piece} (h : isNumber piece = false) :
    piece.token.numbers = [] := by
  cases htoken : piece.token with
  | number value => simp [isNumber, htoken, Token.kind] at h
  | _ => rfl

theorem exists_value_of_isNumber {piece : Piece} (h : isNumber piece = true) :
    ∃ value, piece.token = .number value := by
  cases htoken : piece.token with
  | number value => exact ⟨value, rfl⟩
  | _ => simp [isNumber, htoken, Token.kind] at h

theorem exists_literals {pieces : List Piece}
    (h : ∀ piece ∈ pieces, ∃ rest, Spelled rest piece.text piece.token) :
    ∃ literals, List.Forall₂ Piece.Writes (pieces.filter isNumber) literals ∧
      literals.map Literal.passed = (pieces.map Piece.token).flatMap Token.numbers := by
  induction pieces with
  | nil => exact ⟨[], .nil, rfl⟩
  | cons piece pieces ih =>
      obtain ⟨⟨rest, hspelled⟩, hpieces⟩ := List.forall_mem_cons.mp h
      obtain ⟨literals, hwrites, hpassed⟩ := ih hpieces
      cases hnumber : isNumber piece with
      | false =>
          refine ⟨literals, by simpa [hnumber] using hwrites, ?_⟩
          rw [List.map_cons, List.flatMap_cons, numbers_of_not_isNumber hnumber, hpassed,
            List.nil_append]
      | true =>
          obtain ⟨value, htoken⟩ := exists_value_of_isNumber hnumber
          rw [htoken] at hspelled
          obtain ⟨l, hl, htext, hvalue⟩ := hspelled.exists_literal
          refine ⟨l :: literals, ?_, ?_⟩
          · rw [List.filter_cons_of_pos hnumber]
            exact .cons ⟨hl, htext, by rw [htoken, hvalue]⟩ hwrites
          · rw [List.map_cons, List.map_cons, List.flatMap_cons, hpassed, htoken, hvalue]
            rfl

end Segmentation

open Scan Segmentation

-- The literals of any document, as far as its calls go, and what the renderer is handed for them.
theorem exists_literals_recorded (limit : Nat) (source : String) :
    ∃ front more close literals left, Segments source.toList (front ++ more) close ∧
      List.Forall₂ Piece.Writes (front.filter isNumber) literals ∧
      literals.map Literal.passed =
        (recorded limit source).state.calls.toList.flatMap Call.numbers ++ left ∧
      ((recorded limit source).result = .ok () → left = [] ∧ Opens source.toList front) ∧
      ∀ fault, (recorded limit source).result = .error fault →
        CutOff limit (Lexemes.ofText source).items fault front.length := by
  obtain ⟨ls, left, hbegins, hnumbers, hok, hcut⟩ := exists_numbers_recorded limit source
  obtain ⟨pieces, close, hcs⟩ := exists_segments source.toList
  obtain ⟨front, more, rfl, rfl⟩ := hcs.exists_pieces hbegins
  obtain ⟨literals, hwrites, hpassed⟩ := exists_literals fun piece hpiece =>
    hcs.spelled piece (List.mem_append_left more hpiece)
  rw [map_token_lexemes] at hnumbers
  rw [length_lexemes] at hcut
  have hopens (hresult : (recorded limit source).result = .ok ()) :
      left = [] ∧ Opens source.toList front := by
    obtain ⟨hleft, hprogram⟩ := hok hresult
    rw [map_kind_eq, map_token_lexemes, List.map_map] at hprogram
    exact ⟨hleft, ⟨more, close, hcs⟩, hprogram⟩
  exact ⟨front, more, close, literals, left, hcs, hwrites, hpassed.trans hnumbers, hopens, hcut⟩

-- The number that a renderer is handed is the literal's, cut off behind the point and brought into
-- the range. It is rounded to the nearest double before, which can only take it to the next whole
-- number, and with six decimals or fewer not even that. An accepted document hands over all numbers
-- up to its period, and one with a fault those of its calls, in front of where it cuts off.
theorem numbers_truncated :
    (∀ (limit : Nat) (source : String), ∃ front more close literals left,
      Segments source.toList (front ++ more) close ∧
      List.Forall₂ Piece.Writes (front.filter isNumber) literals ∧
      literals.map Literal.passed =
        (recorded limit source).state.calls.toList.flatMap Call.numbers ++ left ∧
      ((recorded limit source).result = .ok () → left = [] ∧ Opens source.toList front) ∧
      ∀ fault, (recorded limit source).result = .error fault →
        CutOff limit (Lexemes.ofText source).items fault front.length) ∧
    (∀ l : Literal, l.WellFormed →
      Scan.ofText l.text = ⟨l.text, .ok (.number l.decimal.toDouble), []⟩ ∧
      l.magnitude = l.num / l.den ∧ Double.IsNearest l.num l.den l.decimal.toDouble ∧
      (l.fraction.length ≤ 6 → l.passed.toInt = l.truncated) ∧
      (0 ≤ l.value → l.truncated ≤ l.passed.toInt ∧ l.passed.toInt ≤ l.truncated + 1) ∧
      (l.value ≤ 0 → l.truncated - 1 ≤ l.passed.toInt ∧ l.passed.toInt ≤ l.truncated)) ∧
    ∀ l l' : Literal, l.value ≤ l'.value → l.passed ≤ l'.passed := by
  refine ⟨exists_literals_recorded, fun l hl => ?_, fun l l' => Literal.passed_mono⟩
  obtain ⟨hnonneg, hnonpos⟩ := l.passed_near
  exact ⟨scan_of_wellFormed hl, l.magnitude_eq, l.isNearest_toDouble, l.toInt_passed_eq, hnonneg,
    hnonpos⟩

-- A long fraction can be rounded up to the next whole number, and a shorter one is cut off.
example : (Literal.mk false ['1'] "999999999999999".toList).passed = 1 ∧
    (Literal.mk false ['1'] "9999999999999999".toList).passed = 2 := by
  decide +kernel

end WindowDoc
