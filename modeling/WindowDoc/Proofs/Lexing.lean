import WindowDoc.Proofs.Grammar.Theorems
import WindowDoc.Proofs.WholeNumbers

namespace WindowDoc

-- A text that can stand between quotes.
def Quotable (text : String) : Prop := '"' ∉ text.toList ∧ '\n' ∉ text.toList

theorem quotable_iff {text : String} :
    Quotable text ↔ ∀ c ∈ text.toList, Scan.isContent c = true := by
  simp only [Quotable, Scan.isContent, Bool.and_eq_true, bne_iff_ne]
  constructor
  · rintro ⟨hquote, hline⟩ c hc
    exact ⟨fun h => hquote (h ▸ hc), fun h => hline (h ▸ hc)⟩
  · intro h
    exact ⟨fun hc => (h _ hc).1 rfl, fun hc => (h _ hc).2 rfl⟩

namespace Scan

theorem takeWhile_append_stop {p : Char → Bool} {cs : List Char} {c : Char} (rest : List Char)
    (hall : ∀ d ∈ cs, p d = true) (hstop : p c = false) :
    (cs ++ c :: rest).takeWhile p = cs ∧ (cs ++ c :: rest).dropWhile p = c :: rest := by
  rw [List.takeWhile_append_of_pos hall, List.dropWhile_append_of_pos hall]
  simp [hstop]

-- A run that ends where another character stops it.
theorem takeWhile_append_end {p : Char → Bool} {cs rest : List Char} (hall : ∀ c ∈ cs, p c = true)
    (hend : rest.head?.any p = false) :
    (cs ++ rest).takeWhile p = cs ∧ (cs ++ rest).dropWhile p = rest := by
  cases rest with
  | nil =>
      rw [List.takeWhile_append_of_pos hall, List.dropWhile_append_of_pos hall]
      exact ⟨List.append_nil _, rfl⟩
  | cons c more => exact takeWhile_append_stop more hall hend

theorem head?_dropWhile_any (p : Char → Bool) (cs : List Char) :
    (cs.dropWhile p).head?.any p = false := by
  have hhead := List.head?_dropWhile_not p cs
  cases hrest : (cs.dropWhile p).head? with
  | none => rfl
  | some c => simpa [hrest] using hhead

-- A string that is closed, whatever follows it.
theorem ofText_string {text : String} (h : Quotable text) (rest : List Char) :
    ofText ('"' :: (text.toList ++ '"' :: rest)) =
      ⟨'"' :: text.toList ++ ['"'], .ok (.string text), rest⟩ := by
  obtain ⟨htake, hdrop⟩ := takeWhile_append_stop rest (quotable_iff.mp h)
    (show isContent '"' = false by decide)
  have hstring : string (text.toList ++ '"' :: rest) =
      ⟨'"' :: text.toList ++ ['"'], .ok (.string text), rest⟩ := by
    simp only [string, htake, hdrop, String.ofList_toList]
  rw [← hstring]
  rfl

-- What is read between quotes can stand between quotes.
theorem quotable_of_ofText {cs : List Char} {content : String}
    (h : (ofText cs).result = .ok (.string content)) : Quotable content := by
  cases cs with
  | nil => cases h
  | cons c rest =>
      by_cases hquote : c = '"'
      · subst hquote
        have hstring : (string rest).result = .ok (.string content) := h
        simp only [string] at hstring
        split at hstring
        · cases hstring
          rw [quotable_iff, String.toList_ofList]
          exact List.all_eq_true.mp List.all_takeWhile
        · cases hstring
      · simp only [ofText, hquote, if_false] at h
        repeat' split at h
        all_goals try cases h
        simp only [word] at h
        split at h <;> cases h

-- A keyword in its own spelling, before a character that is no part of a word.
theorem ofText_keyword (k : Keyword) {c : Char} (hc : Text.isWordPart c = false)
    (rest : List Char) :
    ofText (k.spelling.toList ++ c :: rest) =
      ⟨k.spelling.toList, .ok (.keyword k), c :: rest⟩ := by
  have hparts : k.spelling.toList.all Text.isWordPart = true := by
    cases k <;> decide
  have hkeyword : Keyword.ofWord? k.spelling.toList = some k := by
    cases k <;> decide
  obtain ⟨htake, hdrop⟩ := takeWhile_append_stop rest (List.all_eq_true.mp hparts) hc
  have hword : word (k.spelling.toList ++ c :: rest) =
      ⟨k.spelling.toList, .ok (.keyword k), c :: rest⟩ := by
    simp only [word, htake, hdrop, hkeyword]
  rw [← hword]
  cases k <;> rfl

theorem ofText_of_isDigit {c : Char} (h : c.isDigit = true) (rest : List Char) :
    ofText (c :: rest) = number false (c :: rest) := by
  have hne (d : Char) (hd : d.isDigit = false) : c ≠ d := by
    rintro rfl
    rw [h] at hd
    cases hd
  simp [ofText, h, hne ',' (by decide), hne ':' (by decide), hne ';' (by decide),
    hne '.' (by decide), hne '(' (by decide), hne ')' (by decide), hne '"' (by decide)]

theorem ofText_of_minus {cs : List Char} (h : beginsWithDigit cs = true) :
    ofText ('-' :: cs) = number true cs := by
  simp [ofText, h]

theorem ofText_of_isAlphabetic {c : Char} (halpha : Text.isAlphabetic c = true)
    (hdigit : ¬ c.isDigit = true) (cs : List Char) : ofText (c :: cs) = word (c :: cs) := by
  have hne (d : Char) (hd : Text.isAlphabetic d = false) : c ≠ d := by
    rintro rfl
    rw [halpha] at hd
    cases hd
  simp [ofText, halpha, hdigit, hne ',' (by decide), hne ':' (by decide), hne ';' (by decide),
    hne '.' (by decide), hne '(' (by decide), hne ')' (by decide), hne '"' (by decide),
    hne '-' (by decide)]

def beginsWithFraction : List Char → Bool
  | '.' :: d :: _ => d.isDigit
  | _ => false

theorem exists_of_beginsWithDigit {cs : List Char} (h : beginsWithDigit cs = true) :
    ∃ d more, cs = d :: more ∧ d.isDigit = true := by
  cases cs with
  | nil => cases h
  | cons d more => exact ⟨d, more, rfl, h⟩

theorem exists_of_beginsWithFraction {cs : List Char} (h : beginsWithFraction cs = true) :
    ∃ d more, cs = '.' :: d :: more ∧ d.isDigit = true := by
  unfold beginsWithFraction at h
  split at h
  · exact ⟨_, _, rfl, h⟩
  · cases h

theorem fraction_of_not_begins {cs : List Char} (h : beginsWithFraction cs = false) :
    fraction cs = ([], cs) := by
  unfold fraction
  split
  · rename_i d rest
    have hdigit : d.isDigit = false := h
    simp [hdigit]
  · rfl

theorem fraction_of_isDigit {d : Char} (h : d.isDigit = true) (cs : List Char) :
    fraction ('.' :: d :: cs) =
      ((d :: cs).takeWhile Char.isDigit, (d :: cs).dropWhile Char.isDigit) :=
  if_pos h

-- A number without a fraction, before what continues no number.
theorem number_whole (negative : Bool) {digits rest : List Char}
    (hdigits : ∀ d ∈ digits, d.isDigit = true) (hdigit : beginsWithDigit rest = false)
    (hfraction : beginsWithFraction rest = false) :
    number negative (digits ++ rest) =
      ⟨(if negative then ['-'] else []) ++ digits,
        .ok (.number (Decimal.mk negative (Numeral.value digits) 0).toDouble), rest⟩ := by
  obtain ⟨htake, hdrop⟩ := takeWhile_append_end hdigits hdigit
  simp only [number, htake, hdrop, fraction_of_not_begins hfraction, Literal.text, Literal.decimal,
    List.isEmpty_nil, if_true, List.append_nil, List.length_nil]

theorem number_fractional (negative : Bool) {digits decimals rest : List Char}
    (hdigits : ∀ d ∈ digits, d.isDigit = true) (hne : decimals ≠ [])
    (hdecimals : ∀ d ∈ decimals, d.isDigit = true) (hdigit : beginsWithDigit rest = false) :
    number negative (digits ++ '.' :: (decimals ++ rest)) =
      ⟨(if negative then ['-'] else []) ++ digits ++ '.' :: decimals,
        .ok (.number
          (Decimal.mk negative (Numeral.value (digits ++ decimals)) decimals.length).toDouble),
        rest⟩ := by
  obtain ⟨htake, hdrop⟩ := takeWhile_append_stop (decimals ++ rest) hdigits
    (show Char.isDigit '.' = false by decide)
  have hfraction : fraction ('.' :: (decimals ++ rest)) = (decimals, rest) := by
    obtain ⟨hafter, hbehind⟩ := takeWhile_append_end hdecimals hdigit
    obtain ⟨d, decimals, rfl⟩ := List.exists_cons_of_ne_nil hne
    have hd := hdecimals d List.mem_cons_self
    rw [List.cons_append, fraction_of_isDigit hd, ← List.cons_append, hafter, hbehind]
  have hpoint : decimals.isEmpty = false := List.isEmpty_eq_false_iff.mpr hne
  simp only [number, htake, hdrop, hfraction, Literal.text, Literal.decimal, hpoint,
    Bool.false_eq_true, if_false]

theorem number_digits (negative : Bool) (n : Nat) {c : Char} (hdigit : c.isDigit = false)
    (hpoint : c ≠ '.') (rest : List Char) :
    number negative (Numeral.digits 10 n ++ c :: rest) =
      ⟨(if negative then ['-'] else []) ++ Numeral.digits 10 n,
        .ok (.number (Decimal.mk negative n 0).toDouble), c :: rest⟩ := by
  have hdigits : ∀ d ∈ Numeral.digits 10 n, Char.isDigit d = true := fun d hd =>
    Numeral.isDigit_of_mem_digits hd
  have hstop : beginsWithDigit (c :: rest) = false := hdigit
  have hfraction : beginsWithFraction (c :: rest) = false := by
    cases rest <;> simp [beginsWithFraction, hpoint]
  rw [number_whole negative hdigits hstop hfraction, Numeral.value_digits]

-- A whole number as it is written, before a character that continues no number.
theorem ofText_ofInt (n : Int) {c : Char} (hdigit : c.isDigit = false) (hpoint : c ≠ '.')
    (rest : List Char) :
    ofText (Numeral.ofInt n ++ c :: rest) =
      ⟨Numeral.ofInt n, .ok (.number (Decimal.mk (decide (n < 0)) n.natAbs 0).toDouble),
        c :: rest⟩ := by
  obtain ⟨d, ds, hdigits⟩ := List.exists_cons_of_ne_nil (Numeral.digits_ne_nil 10 n.natAbs)
  have hd : d.isDigit = true := by
    apply @Numeral.isDigit_of_mem_digits n.natAbs
    rw [hdigits]
    exact List.mem_cons_self
  by_cases hneg : n < 0
  · have hminus : ofText ('-' :: (Numeral.digits 10 n.natAbs ++ c :: rest)) =
        number true (Numeral.digits 10 n.natAbs ++ c :: rest) := by
      simp [ofText, hdigits, beginsWithDigit, hd]
    rw [Numeral.ofInt, if_pos hneg, List.cons_append, hminus, number_digits true _ hdigit hpoint]
    simp [hneg]
  · have hplain : ofText (Numeral.digits 10 n.natAbs ++ c :: rest) =
        number false (Numeral.digits 10 n.natAbs ++ c :: rest) := by
      rw [hdigits, List.cons_append, ofText_of_isDigit hd]
    rw [Numeral.ofInt, if_neg hneg, hplain, number_digits false _ hdigit hpoint]
    simp [hneg]

theorem isBlank_of_isDigit {c : Char} (h : c.isDigit = true) : Text.isBlank c = false := by
  have hrange : 0x30 ≤ c.toNat ∧ c.toNat ≤ 0x39 := by
    simpa [Char.isDigit, UInt32.le_iff_toNat_le] using h
  rw [Bool.eq_false_iff]
  intro hblank
  rw [Text.isBlank, Text.covers_iff Text.blankRanges_ascending] at hblank
  simp [Text.blankRanges] at hblank
  omega

-- What is written for a whole number begins neither a blank nor a comment.
theorem ofInt_begin (n : Int) : ∃ d ds, Numeral.ofInt n = d :: ds ∧ Text.isBlank d = false ∧
    d ≠ '/' := by
  by_cases hneg : n < 0
  · exact ⟨'-', _, by rw [Numeral.ofInt, if_pos hneg], by decide, by decide⟩
  · obtain ⟨d, ds, hdigits⟩ := List.exists_cons_of_ne_nil (Numeral.digits_ne_nil 10 n.natAbs)
    have hd : d.isDigit = true := by
      apply @Numeral.isDigit_of_mem_digits n.natAbs
      rw [hdigits]
      exact List.mem_cons_self
    refine ⟨d, ds, by rw [Numeral.ofInt, if_neg hneg, hdigits], isBlank_of_isDigit hd, ?_⟩
    rintro rfl
    exact absurd hd (by decide)

end Scan

namespace Lexemes

theorem trivia_of_begin {c : Char} (hblank : Text.isBlank c = false) (hslash : c ≠ '/')
    (rest : List Char) : trivia false (c :: rest) = ([], c :: rest) := by
  simp [trivia, hblank, hslash]

-- The first lexeme of a text, behind blanks and comments.
theorem ofCursor_of_trivia {cs skipped left taken rest : List Char} {token : Token}
    (htrivia : trivia false cs = (skipped, left))
    (hscan : Scan.ofText left = ⟨taken, .ok token, rest⟩) (htoken : token ≠ .eof) (p : Position) :
    ofCursor ⟨p, cs⟩ =
      cons ⟨token, p.after skipped⟩ (ofCursor ⟨(p.after skipped).after taken, rest⟩) := by
  have hnext : Cursor.next ⟨p, cs⟩ =
      (.ok ⟨token, p.after skipped⟩, ⟨(p.after skipped).after taken, rest⟩) := by
    rw [Cursor.next, htrivia]
    simp only [hscan]
  rw [ofCursor_eq, hnext]
  exact if_neg htoken

theorem ofCursor_of_scan {cs taken rest : List Char} {token : Token}
    (htrivia : trivia false cs = ([], cs)) (hscan : Scan.ofText cs = ⟨taken, .ok token, rest⟩)
    (htoken : token ≠ .eof) (p : Position) :
    ofCursor ⟨p, cs⟩ = cons ⟨token, p⟩ (ofCursor ⟨p.after taken, rest⟩) :=
  ofCursor_of_trivia htrivia hscan htoken p

-- What is skipped before anything moves on the place of what comes next, and nothing else.
theorem ofCursor_skip {skipped cs : List Char}
    (h : trivia false (skipped ++ cs) = (skipped ++ (trivia false cs).1, (trivia false cs).2))
    (p : Position) : ofCursor ⟨p, skipped ++ cs⟩ = ofCursor ⟨p.after skipped, cs⟩ := by
  have hnext : Cursor.next ⟨p, skipped ++ cs⟩ = Cursor.next ⟨p.after skipped, cs⟩ := by
    simp only [Cursor.next, h, Position.after_append]
  rw [ofCursor_eq, ofCursor_eq, hnext]

-- A blank is skipped, wherever it stands.
theorem ofCursor_blank {c : Char} (hblank : Text.isBlank c = true) (p : Position)
    (rest : List Char) : ofCursor ⟨p, c :: rest⟩ = ofCursor ⟨p.advance c, rest⟩ := by
  have hskip : trivia false ([c] ++ rest) = ([c] ++ (trivia false rest).1, (trivia false rest).2) := by
    simp [trivia, hblank]
  exact ofCursor_skip hskip p

-- A text with the given tokens, whatever stands before and after it.
def Spells (text : List Char) (ts : List Token) : Prop :=
  ∀ (p : Position) (rest : List Char), ∃ ls : List Lexeme, ls.map Lexeme.token = ts ∧
    ofCursor ⟨p, text ++ rest⟩ = (ofCursor ⟨p.after text, rest⟩).prepend ls

namespace Spells

variable {text more : List Char} {ts us : List Token}

theorem nil : Spells [] [] := fun _ _ => ⟨[], rfl, rfl⟩

theorem append (h : Spells text ts) (h' : Spells more us) : Spells (text ++ more) (ts ++ us) := by
  intro p rest
  obtain ⟨ls, hls, hfirst⟩ := h p (more ++ rest)
  obtain ⟨ms, hms, hsecond⟩ := h' (p.after text) rest
  refine ⟨ls ++ ms, by rw [List.map_append, hls, hms], ?_⟩
  rw [List.append_assoc, hfirst, hsecond, Position.after_append, prepend, prepend, prepend,
    List.foldr_append]

theorem blank {c : Char} (hblank : Text.isBlank c = true) (h : Spells text ts) :
    Spells (c :: text) ts := by
  intro p rest
  obtain ⟨ls, hls, hrest⟩ := h (p.advance c) rest
  exact ⟨ls, hls, (ofCursor_blank hblank p (text ++ rest)).trans hrest⟩

theorem space (h : Spells text ts) : Spells (' ' :: text) ts := h.blank (by decide)

theorem newline (h : Spells text ts) : Spells ('\n' :: text) ts := h.blank (by decide)

-- A lexeme that ends where `text` goes on.
theorem lexeme {taken : List Char} {token : Token}
    (htrivia : ∀ rest, trivia false (taken ++ rest) = ([], taken ++ rest)) (htoken : token ≠ .eof)
    (hscan : ∀ rest, Scan.ofText (taken ++ (text ++ rest)) = ⟨taken, .ok token, text ++ rest⟩)
    (h : Spells text ts) : Spells (taken ++ text) (token :: ts) := by
  intro p rest
  obtain ⟨ls, hls, hrest⟩ := h (p.after taken) rest
  refine ⟨⟨token, p⟩ :: ls, by rw [List.map_cons, hls], ?_⟩
  have hfirst := ofCursor_of_scan (htrivia _) (hscan rest) htoken p
  rw [List.append_assoc, hfirst, hrest, ← Position.after_append]
  rfl

theorem mark {c : Char} {token : Token} (hblank : Text.isBlank c = false) (hslash : c ≠ '/')
    (htoken : token ≠ .eof) (hscan : ∀ rest, Scan.ofText (c :: rest) = ⟨[c], .ok token, rest⟩)
    (h : Spells text ts) : Spells (c :: text) (token :: ts) := by
  have htrivia (rest : List Char) : trivia false ([c] ++ rest) = ([], [c] ++ rest) :=
    trivia_of_begin hblank hslash rest
  exact lexeme htrivia htoken (fun rest => hscan (text ++ rest)) h

theorem comma (h : Spells text ts) : Spells (',' :: text) (.comma :: ts) :=
  h.mark (by decide) (by decide) (by simp) fun _ => rfl

theorem colon (h : Spells text ts) : Spells (':' :: text) (.colon :: ts) :=
  h.mark (by decide) (by decide) (by simp) fun _ => rfl

theorem semicolon (h : Spells text ts) : Spells (';' :: text) (.semicolon :: ts) :=
  h.mark (by decide) (by decide) (by simp) fun _ => rfl

theorem period (h : Spells text ts) : Spells ('.' :: text) (.period :: ts) :=
  h.mark (by decide) (by decide) (by simp) fun _ => rfl

theorem openParen (h : Spells text ts) : Spells ('(' :: text) (.openParen :: ts) :=
  h.mark (by decide) (by decide) (by simp) fun _ => rfl

theorem closeParen (h : Spells text ts) : Spells (')' :: text) (.closeParen :: ts) :=
  h.mark (by decide) (by decide) (by simp) fun _ => rfl

theorem string {content : String} (hcontent : Quotable content) (h : Spells text ts) :
    Spells ('"' :: (content.toList ++ '"' :: text)) (.string content :: ts) := by
  have htrivia (rest : List Char) : trivia false ('"' :: content.toList ++ ['"'] ++ rest) =
      ([], '"' :: content.toList ++ ['"'] ++ rest) :=
    trivia_of_begin (by decide) (by decide) _
  have hscan (rest : List Char) :
      Scan.ofText ('"' :: content.toList ++ ['"'] ++ (text ++ rest)) =
        ⟨'"' :: content.toList ++ ['"'], .ok (.string content), text ++ rest⟩ := by
    rw [List.append_assoc]
    exact Scan.ofText_string hcontent (text ++ rest)
  simpa using lexeme htrivia (by simp) hscan h

theorem keyword (k : Keyword) {c : Char} (hc : Text.isWordPart c = false)
    (h : Spells (c :: text) ts) :
    Spells (k.spelling.toList ++ c :: text) (.keyword k :: ts) := by
  have htrivia (rest : List Char) : trivia false (k.spelling.toList ++ rest) =
      ([], k.spelling.toList ++ rest) := by
    cases k <;> exact trivia_of_begin (by decide) (by decide) _
  exact lexeme htrivia (by simp) (fun rest => Scan.ofText_keyword k hc (text ++ rest)) h

-- A keyword before a space.
theorem word (k : Keyword) (h : Spells text ts) :
    Spells (k.spelling.toList ++ ' ' :: text) (.keyword k :: ts) :=
  h.space.keyword k (by decide)

theorem number (n : Int32) {c : Char} (hdigit : c.isDigit = false) (hpoint : c ≠ '.')
    (h : Spells (c :: text) ts) :
    Spells ((Numeral.signed n).toList ++ c :: text)
      (.number (Decimal.ofInt32 n).toDouble :: ts) := by
  rw [Numeral.signed, String.toList_ofList]
  obtain ⟨d, ds, hbegin, hblank, hslash⟩ := Scan.ofInt_begin n.toInt
  have htrivia (rest : List Char) : trivia false (Numeral.ofInt n.toInt ++ rest) =
      ([], Numeral.ofInt n.toInt ++ rest) := by
    rw [hbegin]
    exact trivia_of_begin hblank hslash _
  have hscan (rest : List Char) := Scan.ofText_ofInt n.toInt hdigit hpoint (text ++ rest)
  exact lexeme htrivia (by simp) hscan h

end Spells

end Lexemes

end WindowDoc
