import WindowDoc.Descent
import WindowDoc.Proofs.Standstill

namespace WindowDoc

-- Following the rules is reading by places. In particular the kinds that a fault names, which are
-- those that a lexeme has been tested for in vain, are those that the place expects.

namespace Lexemes

-- Reading on at a place with a lexeme that has been taken already.
def onward (limit : Nat) (place : Place) (depth : Nat) (lexeme : Lexeme) (rest : Lexemes) :
    Reading :=
  match place.step limit depth lexeme.position.line lexeme.token with
  | .goOn next deeper event => rest.reading limit next deeper event
  | .finished => ⟨[.perform .showWindow], .ok ()⟩
  | .refused => .stop (place.refusal limit lexeme)

theorem reading_eq_pull (limit : Nat) (place : Place) (depth : Nat) (waiting : Option Event)
    (lexemes : Lexemes) : lexemes.reading limit place depth waiting =
      match lexemes.pull with
      | .error e => .stop (.lexical e)
      | .ok (lexeme, rest) => (onward limit place depth lexeme rest).after lexeme waiting := by
  cases lexemes with
  | stopped e => rfl
  | cons lexeme rest => rfl
  | ended position =>
      have hstep : place.step limit depth position.line .eof = .refused :=
        (Place.step_eq_refused_iff _ _ _ _ _).mpr place.eof_notMem_expected
      simp only [reading, pull, onward, hstep]

end Lexemes

-- What happens, with what has happened before it.
def Reading.since (acts : List Act) (reading : Reading) : Reading :=
  { reading with acts := acts ++ reading.acts }

namespace Reader

-- What the lexeme that is looked at leads to.
def step (limit : Nat) (place : Place) (depth : Nat) (reader : Reader) : Place.Step :=
  place.step limit depth reader.lexeme.position.line reader.lexeme.token

-- The lexeme has been tested for these kinds in vain.
def having (missed : List Kind) (reader : Reader) : Reader := { reader with missed }

theorem depth_having (missed : List Kind) (reader : Reader) :
    (reader.having missed).depth = reader.depth := rfl

theorem lexeme_having (missed : List Kind) (reader : Reader) :
    (reader.having missed).lexeme = reader.lexeme := rfl

variable {reader : Reader} {lexeme : Lexeme} {rest : Lexemes}

theorem remaining_le (reader : Reader) : reader.remaining ≤ reader.rest.length + 1 := by
  unfold remaining
  split <;> omega

theorem remaining_take_lt (hkind : reader.lexeme.kind ≠ .eof)
    (hpull : reader.rest.pull = .ok (lexeme, rest)) :
    (reader.take lexeme rest).remaining < reader.remaining := by
  have hreader : reader.remaining = reader.rest.length + 1 := if_neg hkind
  rw [hreader]
  cases hrest : reader.rest with
  | stopped e =>
      rw [hrest] at hpull
      cases hpull
  | ended position =>
      rw [hrest] at hpull
      cases hpull
      exact Nat.succ_pos _
  | cons l ls =>
      rw [hrest] at hpull
      cases hpull
      exact Nat.lt_succ_of_le (reader.take lexeme rest).remaining_le

end Reader

namespace Rule

variable {α : Type} {reader after : Reader} {tried more : List Kind}
  {limit depth deeper : Nat} {place next : Place} {event waiting : Option Event} {kind : Kind}

section Follow

theorem follow_bind (rule : Rule α) (go : α → Rule Unit) (reader : Reader) :
    (rule >>= go).follow reader = (rule.run.run reader).bind fun
      | (.ok a, after) => (go a).follow after
      | (.error fault, after) => some ⟨after.acts, .error fault⟩ := by
  unfold follow
  simp only [ExceptT.run_bind, StateT.run_bind, Option.bind_eq_bind, Option.bind_assoc]
  congr 1
  funext ⟨result, after⟩
  cases result <;> rfl

theorem follow_check (kind : Kind) (go : Bool → Rule Unit) (reader : Reader) :
    (check kind >>= go).follow reader =
      if reader.lexeme.kind = kind then (go true).follow reader
      else (go false).follow (reader.miss kind) := by
  have hrun : (check kind).run.run reader =
      if reader.lexeme.kind = kind then some (.ok true, reader)
      else some (.ok false, reader.miss kind) := by
    change (ite (reader.lexeme.kind = kind) (pure true) _ : Rule Bool).run.run reader = _
    split <;> rfl
  rw [follow_bind, hrun]
  split <;> rfl

theorem follow_bump (go : Unit → Rule Unit) (reader : Reader) :
    (bump >>= go).follow reader =
      match reader.rest.pull with
      | .error e => some ⟨reader.acts, .error (.lexical e)⟩
      | .ok (lexeme, rest) => (go ()).follow (reader.take lexeme rest) := by
  have hrun : bump.run.run reader =
      match reader.rest.pull with
      | .error e => some (.error (.lexical e), reader)
      | .ok (lexeme, rest) => some (.ok (), reader.take lexeme rest) := by
    change ExceptT.run (m := StateT Reader Option) (match reader.rest.pull with
      | .error e => throw (Fault.lexical e)
      | .ok (lexeme, rest) => modify (Reader.take lexeme rest)) reader = _
    cases reader.rest.pull <;> rfl
  rw [follow_bind, hrun]
  cases reader.rest.pull <;> rfl

theorem follow_unexpected (go : α → Rule Unit) (reader : Reader) :
    (unexpected >>= go).follow reader = some ⟨reader.acts, .error (.mismatch
      ⟨reader.lexeme.position, reader.missed, reader.lexeme.kind⟩)⟩ := rfl

theorem follow_perform (event : Event) (go : Unit → Rule Unit) (reader : Reader) :
    (perform event >>= go).follow reader = (go ()).follow (reader.perform event) := rfl

end Follow

-- A rule that does what reading on at a place comes to, with the statement that waits there.
def Reads (limit : Nat) (place : Place) (depth : Nat) (waiting : Option Event) (rule : Rule Unit)
    (reader : Reader) : Prop :=
  rule.follow reader = some ((reader.rest.onward limit place depth reader.lexeme).since
    (reader.acts ++ waiting.toList.map .perform))

-- The rules have come further, with as many panels open as before.
structure Beyond (reader after : Reader) : Prop where
  depth : after.depth = reader.depth
  remaining : after.remaining < reader.remaining

theorem Beyond.trans {further : Reader} (h : Beyond reader after) (h' : Beyond after further) :
    Beyond reader further :=
  ⟨h'.depth.trans h.depth, Nat.lt_trans h'.remaining h.remaining⟩

theorem Beyond.trans_or {further : Reader} (h : Beyond reader after)
    (h' : further = after ∨ Beyond after further) : Beyond reader further := by
  obtain rfl | h' := h'
  · exact h
  · exact h.trans h'

theorem Beyond.perform (h : Beyond reader after) (event : Event) :
    Beyond reader (after.perform event) := ⟨h.depth, h.remaining⟩

theorem reads_bump {go : Unit → Rule Unit}
    (hstep : reader.step limit place depth = .goOn next deeper event)
    (h : ∀ after, Beyond reader after → Reads limit next deeper event (go ()) (after.having [])) :
    Reads limit place depth none (bump >>= go) (reader.having tried) := by
  have hkind : reader.lexeme.kind ≠ .eof := by
    intro heof
    have hrefused : reader.step limit place depth = .refused := by
      rw [Reader.step, Place.step_eq_refused_iff, ← Lexeme.kind, heof]
      exact place.eof_notMem_expected
    rw [hstep] at hrefused
    cases hrefused
  have honward : reader.rest.onward limit place depth reader.lexeme =
      reader.rest.reading limit next deeper event := by
    rw [Lexemes.onward, ← Reader.step, hstep]
  change (bump >>= go).follow _ = some ((reader.rest.onward limit place depth reader.lexeme).since _)
  rw [follow_bump, honward, Lexemes.reading_eq_pull]
  change (match reader.rest.pull with | .error e => _ | .ok (lexeme, rest) => _) = _
  cases hpull : reader.rest.pull with
  | error e => simp [Reading.since, Reading.stop, Reader.having]
  | ok answer =>
      have hreads := h (reader.take answer.1 answer.2) ⟨rfl, Reader.remaining_take_lt hkind hpull⟩
      unfold Reads at hreads
      simpa [Reader.take, Reader.having, Reading.since, Reading.after] using hreads

theorem reads_perform {event : Event} {go : Unit → Rule Unit}
    (h : Reads limit place depth none (go ()) ((reader.perform event).having tried)) :
    Reads limit place depth (some event) (perform event >>= go) (reader.having tried) := by
  unfold Reads at h ⊢
  rw [follow_perform]
  simpa [Reader.perform, Reader.having] using h

theorem reads_enter {go : Unit → Rule Unit}
    (h : Reads limit place depth waiting (go ()) (reader.enter.having tried)) :
    Reads limit place depth waiting (modify Reader.enter >>= go) (reader.having tried) := h

theorem reads_leave {go : Unit → Rule Unit}
    (h : Reads limit place depth waiting (go ()) (reader.leave.having tried)) :
    Reads limit place depth waiting (modify Reader.leave >>= go) (reader.having tried) := h

theorem reads_unexpected {go : α → Rule Unit} (hlive : place.expected ≠ [])
    (hkind : reader.lexeme.kind ∉ place.expected) :
    Reads limit place depth none (unexpected >>= go) (reader.having place.expected) := by
  have hrefused : reader.step limit place depth = .refused :=
    (Place.step_eq_refused_iff ..).mpr hkind
  have honward : reader.rest.onward limit place depth reader.lexeme =
      .stop (place.refusal limit reader.lexeme) := by
    rw [Lexemes.onward, ← Reader.step, hrefused]
  change (unexpected >>= go).follow _ =
    some ((reader.rest.onward limit place depth reader.lexeme).since _)
  rw [follow_unexpected, honward, Place.refusal_eq_mismatch hlive]
  simp [Reading.since, Reading.stop, Reader.having]

theorem reads_check {go : Bool → Rule Unit} (htried : kind.addTo tried = more)
    (hfound : reader.lexeme.kind = kind →
      Reads limit place depth waiting (go true) (reader.having tried))
    (hmissed : reader.lexeme.kind ≠ kind →
      Reads limit place depth waiting (go false) (reader.having more)) :
    Reads limit place depth waiting (check kind >>= go) (reader.having tried) := by
  unfold Reads at *
  rw [follow_check]
  split
  · rename_i hkind
    exact hfound hkind
  · rename_i hkind
    subst htried
    exact hmissed hkind

theorem reads_eat_bump {go : Bool → Rule Unit} (htried : kind.addTo tried = more)
    (hfound : reader.lexeme.kind = kind →
      Reads limit place depth none (bump >>= fun _ => go true) (reader.having tried))
    (hmissed : reader.lexeme.kind ≠ kind →
      Reads limit place depth none (go false) (reader.having more)) :
    Reads limit place depth none (eat kind >>= go) (reader.having tried) := by
  unfold eat
  rw [bind_assoc]
  refine reads_check htried (fun hkind => ?_) hmissed
  simp only [if_true, bind_assoc, pure_bind]
  exact hfound hkind

theorem reads_eat {go : Bool → Rule Unit} (htried : kind.addTo tried = more)
    (hstep : reader.lexeme.kind = kind → reader.step limit place depth = .goOn next deeper event)
    (hfound : ∀ after, Beyond reader after →
      Reads limit next deeper event (go true) (after.having []))
    (hmissed : reader.lexeme.kind ≠ kind →
      Reads limit place depth none (go false) (reader.having more)) :
    Reads limit place depth none (eat kind >>= go) (reader.having tried) :=
  reads_eat_bump htried (fun hkind => reads_bump (hstep hkind) hfound) hmissed

-- If the lexeme is not of the kind, it is the last one that is tested for at the place.
theorem reads_expect {go : Unit → Rule Unit}
    (hlast : reader.lexeme.kind ≠ kind →
      place.expected = kind.addTo tried ∧ reader.lexeme.kind ∉ tried)
    (hstep : reader.lexeme.kind = kind → reader.step limit place depth = .goOn next deeper event)
    (h : ∀ after, Beyond reader after → Reads limit next deeper event (go ()) (after.having [])) :
    Reads limit place depth none (expect kind >>= go) (reader.having tried) := by
  unfold expect
  rw [bind_assoc]
  refine reads_eat rfl hstep h fun hne => ?_
  obtain ⟨hexpected, htried⟩ := hlast hne
  have hmem (other : Kind) : other ∈ place.expected ↔ other ∈ tried ∨ other = kind := by
    rw [hexpected, Kind.addTo]
    split <;> simp_all
  rw [← hexpected]
  apply reads_unexpected
  · exact List.ne_nil_of_mem ((hmem kind).mpr (.inr rfl))
  · rw [hmem, not_or]
    exact ⟨htried, hne⟩

-- A place that waits for one kind only.
theorem reads_expect_only {go : Unit → Rule Unit} (hexpected : place.expected = [kind])
    (hstep : ∀ line token, place.step limit depth line token =
      .onKind token kind (.goOn next deeper event))
    (h : ∀ after, Beyond reader after → Reads limit next deeper event (go ()) (after.having [])) :
    Reads limit place depth none (expect kind >>= go) (reader.having []) := by
  refine reads_expect (fun _ => ⟨hexpected, List.not_mem_nil⟩) (fun hkind => ?_) h
  rw [Reader.step, hstep]
  exact if_pos hkind

theorem reads_get {go : Reader → Rule Unit} (h : Reads limit place depth waiting (go reader) reader) :
    Reads limit place depth waiting (get >>= go) reader := h

theorem reads_expectLiteral {go : α → Rule Unit} {value? : Lexeme → Option α} {next : α → Place}
    (hexpected : place.expected = [kind])
    (hnone : value? reader.lexeme = none → reader.lexeme.kind ≠ kind)
    (hstep : ∀ a, value? reader.lexeme = some a →
      reader.step limit place depth = .goOn (next a) depth none)
    (h : ∀ a after, Beyond reader after →
      Reads limit (next a) depth none (go a) (after.having [])) :
    Reads limit place depth none (expectLiteral kind value? >>= go) (reader.having []) := by
  unfold expectLiteral
  rw [bind_assoc]
  apply reads_get
  rw [Reader.lexeme_having]
  cases hvalue : value? reader.lexeme with
  | some a =>
      simp only [bind_assoc, pure_bind]
      exact reads_bump (hstep a hvalue) (h a)
  | none =>
      have hne := hnone hvalue
      rw [bind_assoc]
      refine reads_check hexpected.symm (fun hkind => absurd hkind hne) fun _ => ?_
      apply reads_unexpected
      · simp [hexpected]
      · simpa [hexpected] using hne

theorem reads_expectString {go : String → Rule Unit} {next : String → Place}
    (hexpected : place.expected = [.string])
    (hstep : ∀ line token, place.step limit depth line token =
      .onString token fun text => .move (next text) depth)
    (h : ∀ text after, Beyond reader after →
      Reads limit (next text) depth none (go text) (after.having [])) :
    Reads limit place depth none (expectString >>= go) (reader.having []) := by
  refine reads_expectLiteral hexpected ?_ (fun text htext => ?_) h
  · unfold Lexeme.string? Lexeme.kind
    cases reader.lexeme.token <;> simp [Token.kind]
  · rw [Reader.step, hstep]
    unfold Lexeme.string? at htext
    split at htext
    · rename_i content htoken
      cases htext
      rw [htoken]
      rfl
    · cases htext

theorem reads_expectNumber {go : Int32 → Rule Unit} {next : Int32 → Place}
    (hexpected : place.expected = [.number])
    (hstep : ∀ line token, place.step limit depth line token =
      .onNumber token fun n => .move (next n) depth)
    (h : ∀ n after, Beyond reader after →
      Reads limit (next n) depth none (go n) (after.having [])) :
    Reads limit place depth none (expectNumber >>= go) (reader.having []) := by
  refine reads_expectLiteral hexpected ?_ (fun n hn => ?_) h
  · unfold Lexeme.number? Lexeme.kind
    cases reader.lexeme.token <;> simp [Token.kind]
  · rw [Reader.step, hstep]
    unfold Lexeme.number? at hn
    split at hn
    · rename_i value htoken
      cases hn
      rw [htoken]
      rfl
    · cases hn

-- What a keyword or a mark leads to depends on its kind alone.
theorem step_of_kind (token : Token) (hkind : reader.lexeme.kind = token.kind)
    (htoken : token.kind ≠ .string ∧ token.kind ≠ .number) :
    reader.step limit place depth =
      place.step limit depth reader.lexeme.position.line token := by
  have heq : reader.lexeme.token = token := by
    unfold Lexeme.kind at hkind
    generalize reader.lexeme.token = found at hkind
    cases found <;> cases token <;> simp_all [Token.kind]
  rw [Reader.step, heq]

end Rule

end WindowDoc
