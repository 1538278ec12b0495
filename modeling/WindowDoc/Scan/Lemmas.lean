import WindowDoc.Scan

namespace WindowDoc.Scan

-- A scan splits the text: what it takes and what it leaves are the text in order.

private theorem fraction_split (cs : List Char) :
    (if (fraction cs).1.isEmpty then [] else '.' :: (fraction cs).1) ++ (fraction cs).2 = cs := by
  unfold fraction
  split
  · split
    · rename_i d rest h
      simp [h]
    · rfl
  · rfl

theorem number_split (negative : Bool) (cs : List Char) :
    (number negative cs).taken ++ (number negative cs).rest =
      (if negative then ['-'] else []) ++ cs := by
  have h := fraction_split (cs.dropWhile Char.isDigit)
  simp only [number, Literal.text, List.append_assoc]
  rw [h, List.takeWhile_append_dropWhile]

theorem string_split (cs : List Char) : (string cs).taken ++ (string cs).rest = '"' :: cs := by
  simp only [string]
  split
  · rename_i rest h
    simp only [List.cons_append, List.append_assoc, List.nil_append]
    rw [← h, List.takeWhile_append_dropWhile]
  · simp

theorem word_split (cs : List Char) : (word cs).taken ++ (word cs).rest = cs := by
  simp [word]

theorem ofText_split (cs : List Char) : (ofText cs).taken ++ (ofText cs).rest = cs := by
  cases cs with
  | nil => rfl
  | cons c rest =>
      by_cases hstring : c = '"'
      · subst hstring
        simpa [ofText] using string_split rest
      simp only [ofText]
      repeat' split
      all_goals simp_all [number_split, word_split]

-- A token other than the end of input is made of at least one character.

private theorem number_taken_ne_nil (negative : Bool) (c : Char) (rest : List Char)
    (h : c.isDigit = true) : (number negative (c :: rest)).taken ≠ [] := by
  simp [number, Literal.text, h]

theorem ofText_taken_ne_nil {cs : List Char} {token : Token}
    (hresult : (ofText cs).result = .ok token) (htoken : token ≠ .eof) :
    (ofText cs).taken ≠ [] := by
  cases cs with
  | nil =>
      simp only [ofText, Except.ok.injEq] at hresult
      exact absurd hresult.symm htoken
  | cons c rest =>
      by_cases hstring : c = '"'
      · subst hstring
        have hne : (string rest).taken ≠ [] := by
          simp only [string]
          split <;> simp
        simpa [ofText] using hne
      by_cases hdigit : c.isDigit = true
      · have hne := number_taken_ne_nil false c rest hdigit
        simp only [ofText]
        repeat' split
        all_goals simp_all
      by_cases halpha : Text.isAlphabetic c = true
      · have hne : (word (c :: rest)).taken ≠ [] := by
          simp [word, Text.isWordPart_of_isAlphabetic halpha]
        simp only [ofText]
        repeat' split
        all_goals simp_all [number, Literal.text]
      · simp only [ofText] at hresult ⊢
        repeat' split
        all_goals simp_all [number, Literal.text]

theorem ofText_rest_length_lt {cs : List Char} {token : Token}
    (hresult : (ofText cs).result = .ok token) (htoken : token ≠ .eof) :
    (ofText cs).rest.length < cs.length := by
  have hsplit := congrArg List.length (ofText_split cs)
  have hpos := List.length_pos_iff.mpr (ofText_taken_ne_nil hresult htoken)
  rw [List.length_append] at hsplit
  omega

end WindowDoc.Scan
