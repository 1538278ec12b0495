import WindowDoc.Proofs.Cutting
import WindowDoc.Proofs.EarliestError

namespace WindowDoc

open Grammar

-- Every text that has not gone wrong so far can be cut and completed.

theorem Grammar.Accepts.eof_notMem {limit depth : Nat} {place : Place} {ts : List Token}
    (h : Accepts limit place depth ts) : Kind.eof ∉ ts.map Token.kind := by
  induction ts generalizing place depth with
  | nil => exact h.elim
  | cons token ts ih =>
      rw [Accepts] at h
      rw [List.map_cons, List.mem_cons, not_or]
      have hkind : token.kind ∈ place.expected := by
        by_contra hstray
        rw [(Place.step_eq_refused_iff _ _ _ _ _).mpr hstray] at h
        exact h
      refine ⟨fun heof => place.eof_notMem_expected (heof ▸ hkind), ?_⟩
      split at h
      · exact ih h
      · rw [h]
        exact List.not_mem_nil
      · exact h.elim

namespace Lexemes

-- One token of the kind before others, with a space between them.
theorem Spells.exists_sample {text : List Char} {ts : List Token} (h : Spells text ts) {kind : Kind}
    (heof : kind ≠ .eof) : ∃ more, Spells more (kind.sample :: ts) := by
  cases kind with
  | keyword k => exact ⟨_, h.word k⟩
  | string =>
      have hempty : Quotable "" := ⟨by simp, by simp⟩
      exact ⟨_, h.string hempty⟩
  | number => exact ⟨_, h.space.number 0 (by decide) (by decide)⟩
  | comma => exact ⟨_, h.comma⟩
  | colon => exact ⟨_, h.colon⟩
  | semicolon => exact ⟨_, h.semicolon⟩
  | period => exact ⟨_, h.period⟩
  | openParen => exact ⟨_, h.openParen⟩
  | closeParen => exact ⟨_, h.closeParen⟩
  | eof => exact absurd rfl heof

theorem exists_spells {kinds : List Kind} (heof : .eof ∉ kinds) :
    ∃ text, Spells text (kinds.map Kind.sample) := by
  induction kinds with
  | nil => exact ⟨[], .nil⟩
  | cons kind kinds ih =>
      rw [List.mem_cons, not_or] at heof
      obtain ⟨text, htext⟩ := ih heof.2
      exact htext.exists_sample (Ne.symm heof.1)

end Lexemes

-- Behind the lexemes of a walk a text can go on in such a way that it is a document.
theorem exists_completion {limit depth : Nat} {place : Place} {source : String}
    {before : List Lexeme} {rest : Lexemes} {events : List Event}
    (hsource : Lexemes.ofText source = rest.prepend before)
    (hwalk : Walk limit .window 0 (before.map Lexeme.token) events place depth) :
    ∃ (source' : String) (d : Document) (more : List Lexeme),
      (Lexemes.ofText source').BeginsWith (before ++ more) ∧
      d.tokens = (before ++ more).map Lexeme.token ∧ d.window.depth ≤ limit := by
  obtain ⟨ts, hts⟩ := exists_accepts limit depth place hwalk.expected_ne_nil
  obtain ⟨d, htokens, hdepth⟩ := (accepts_iff limit _).mp (hwalk.accepts_iff.mpr hts)
  -- the strings and numbers of the completion can be any
  have hkinds : (before.map Lexeme.token ++ (ts.map Token.kind).map Kind.sample).map Token.kind =
      d.kinds := by
    rw [Document.kinds, ← htokens, List.map_append, List.map_append, List.map_map, List.map_map]
    simp [Function.comp_def]
  obtain ⟨d', htokens', hdepth'⟩ := d.exists_of_kinds hkinds
  obtain ⟨text, hspells⟩ := Lexemes.exists_spells hts.eof_notMem
  obtain ⟨head, remaining, -, hcut⟩ := Lexemes.exists_cut hsource
  have hstart : Lexemes.ofCursor ⟨.start, head ++ ' ' :: text⟩ =
      (Lexemes.ofCursor ⟨Position.start.after head, ' ' :: text⟩).prepend before :=
    hcut (' ' :: text) (.space remaining text)
  obtain ⟨more, hmore, hend⟩ := hspells.space (Position.start.after head) []
  refine ⟨String.ofList (head ++ ' ' :: text), d', more, ?_, ?_, hdepth' ▸ hdepth⟩
  · rw [List.append_nil] at hend
    rw [Lexemes.ofText, Cursor.ofText, String.toList_ofList]
    refine ⟨Lexemes.ofCursor ⟨(Position.start.after head).after (' ' :: text), []⟩, ?_⟩
    rw [hstart, hend, Lexemes.prepend, Lexemes.prepend, Lexemes.prepend, List.foldr_append]
  · rw [List.map_append, hmore, htokens']

end WindowDoc
