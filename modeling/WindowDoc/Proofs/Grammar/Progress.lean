import WindowDoc.Place
import WindowDoc.Proofs.Grammar.Derivation

namespace WindowDoc

namespace Grammar

-- What END closes.
inductive Block where
  | window | panel | group
deriving DecidableEq

namespace Block

-- The blocks that are open, innermost first, once one more kind has been read.
def after (blocks : List Block) : Kind → List Block
  | .keyword .window => window :: blocks
  | .keyword .panel => panel :: blocks
  | .keyword .group => group :: blocks
  | .keyword .finish => blocks.tail
  | _ => blocks

-- The blocks around a widget of the window, by the number of panels among them.
def around (depth : Nat) : List Block := List.replicate depth panel ++ [window]

theorem count_around (depth : Nat) : (around depth).count panel = depth := by
  simp [around, List.count_append]

end Block

def openPanels (kinds : List Kind) : Nat := (kinds.foldl Block.after []).count .panel

end Grammar

namespace Place

open Grammar (Block)

-- The blocks that are open at a place.
def blocks (depth : Nat) : Place → List Block
  | window | windowEnd => []
  | radios _ | radioLabel | radioEnd _ => .group :: Block.around depth
  | panelEnd => Block.around (depth - 1)
  | _ => Block.around depth

-- A step to a place where the document can go on.
structure Progress (limit depth : Nat) (place : Place) (token : Token) (next : Place)
    (deeper : Nat) (event : Option Event) : Prop where
  step_eq : ∀ more line, limit ≤ more →
    place.step more depth line token = .goOn next deeper event
  expected_ne_nil : next.expected ≠ []
  ne_window : next ≠ .window
  depth_le : depth ≤ limit → deeper ≤ limit
  blocks_eq : (place = .window → depth = 0) →
    next.blocks deeper = Block.after (place.blocks depth) token.kind

theorem Step.of_onKind_eq {token : Token} {kind : Kind} {step other : Step}
    (h : onKind token kind step = other) (hother : other ≠ .refused) :
    token.kind = kind ∧ step = other := by
  unfold onKind at h
  split at h
  · exact ⟨‹_›, h⟩
  · exact absurd h.symm hother

theorem step_eq_goOn {limit depth line deeper : Nat} {place next : Place} {token : Token}
    {event : Option Event} (h : place.step limit depth line token = .goOn next deeper event) :
    Progress limit depth place token next deeper event ∨
      (∃ first, place = .widgets first) ∧ token = .keyword .panel ∧ limit ≤ depth ∧
        next = .tooDeep line := by
  cases place with
  | widgets first =>
      cases token with
      | keyword k =>
          cases k with
          | panel =>
              by_cases hlt : depth < limit
              · have hstep (more line : Nat) (hmore : limit ≤ more) :
                    (widgets first).step more depth line (.keyword .panel) =
                      .goOn layout (depth + 1) (some .openPanel) :=
                  if_pos (Nat.lt_of_lt_of_le hlt hmore)
                rw [hstep limit line (Nat.le_refl _)] at h
                obtain ⟨rfl, rfl, rfl⟩ := Step.goOn.inj h
                exact .inl ⟨hstep, by simp [expected], by simp, fun _ => hlt, fun _ => rfl⟩
              · have hover := Nat.le_of_not_lt hlt
                rw [step_panel_of_le hover] at h
                obtain ⟨rfl, rfl, rfl⟩ := Step.goOn.inj h
                exact .inr ⟨⟨first, rfl⟩, rfl, hover, rfl⟩
          | finish =>
              cases first with
              | true => cases h
              | false =>
                  obtain ⟨rfl, rfl, rfl⟩ := Step.goOn.inj h
                  refine .inl ⟨fun _ _ _ => rfl, ?_, ?_, id, fun _ => ?_⟩
                  · split <;> simp [expected]
                  · split <;> simp
                  · cases depth <;> rfl
          | button | label | textField | group =>
              obtain ⟨rfl, rfl, rfl⟩ := Step.goOn.inj h
              exact .inl ⟨fun _ _ _ => rfl, by simp [expected], by simp, id, fun _ => rfl⟩
          | _ => cases h
      | _ => cases h
  | radios first =>
      left
      cases token with
      | keyword k =>
          cases k with
          | radio =>
              obtain ⟨rfl, rfl, rfl⟩ := Step.goOn.inj h
              exact ⟨fun _ _ _ => rfl, by simp [expected], by simp, id, fun _ => rfl⟩
          | finish =>
              cases first with
              | true => cases h
              | false =>
                  obtain ⟨rfl, rfl, rfl⟩ := Step.goOn.inj h
                  exact ⟨fun _ _ _ => rfl, by simp [expected], by simp, id, fun _ => rfl⟩
          | _ => cases h
      | _ => cases h
  | arrangement =>
      left
      cases token with
      | keyword k =>
          cases k with
          | flow | grid =>
              obtain ⟨rfl, rfl, rfl⟩ := Step.goOn.inj h
              exact ⟨fun _ _ _ => rfl, by simp [expected], by simp, id, fun _ => rfl⟩
          | _ => cases h
      | _ => cases h
  | gridClose =>
      left
      cases token with
      | closeParen | comma =>
          obtain ⟨rfl, rfl, rfl⟩ := Step.goOn.inj h
          exact ⟨fun _ _ _ => rfl, by simp [expected], by simp, id, fun _ => rfl⟩
      | _ => cases h
  | tooDeep => cases h
  | title | buttonLabel | labelText | radioLabel =>
      left
      cases token with
      | string content =>
          obtain ⟨rfl, rfl, rfl⟩ := Step.goOn.inj h
          exact ⟨fun _ _ _ => rfl, by simp [expected], by simp, id, fun _ => rfl⟩
      | _ => cases h
  | width | height | rows | columns | horizontalGap | verticalGap | fieldColumns =>
      left
      cases token with
      | number value =>
          simp only [step, Step.onNumber, Step.move, Step.goOn.injEq] at h
          obtain ⟨rfl, rfl, rfl⟩ := h
          exact ⟨fun _ _ _ => rfl, by simp [expected], by simp, id, fun _ => rfl⟩
      | _ => cases h
  | windowEnd =>
      obtain ⟨-, hnever⟩ := Step.of_onKind_eq h (by simp)
      cases hnever
  | _ =>
      left
      simp only [step] at h
      obtain ⟨hkind, h⟩ := Step.of_onKind_eq h (by simp)
      obtain ⟨rfl, rfl, rfl⟩ := Step.goOn.inj h
      refine ⟨fun _ _ _ => ?_, by simp [expected, widgetStarts], by simp, ?_, ?_⟩
      · simp [step, hkind, Step.onKind, Step.move]
      · omega
      · intro hstart
        simp_all [blocks, Block.after, Block.around]

theorem Progress.of_steps {limit depth deeper : Nat} {place next : Place} {token : Token}
    {event : Option Event}
    (h : ∀ line, place.step limit depth line token = .goOn next deeper event) :
    Progress limit depth place token next deeper event := by
  obtain hprogress | ⟨-, -, -, hzero⟩ := step_eq_goOn (h 0)
  · exact hprogress
  obtain hprogress | ⟨-, -, -, hone⟩ := step_eq_goOn (h 1)
  · exact hprogress
  · cases hzero.symm.trans hone

theorem step_eq_finished {limit depth line : Nat} {place : Place} {token : Token}
    (h : place.step limit depth line token = .finished) :
    place = .windowEnd ∧ token = .period := by
  cases place with
  | windowEnd => exact ⟨rfl, Grammar.kind_eq_mark_iff.2.2.2.1.mp (Step.of_onKind_eq h (by simp)).1⟩
  | widgets first | radios first | arrangement | gridClose =>
      simp only [step, Step.move] at h
      split at h <;> try split at h
      all_goals cases h
  | title | buttonLabel | labelText | radioLabel | width | height | rows | columns
  | horizontalGap | verticalGap | fieldColumns => cases token <;> cases h
  | tooDeep => cases h
  | _ => cases (Step.of_onKind_eq h (by simp)).2

end Place

end WindowDoc
