import WindowDoc.Proofs.Grammar.Progress
import WindowDoc.Reading

namespace WindowDoc.Grammar

-- Tokens that lead from one place to another, each place with the number of panels open there,
-- and the statements that they complete. No step depends on the line, so a walk never goes
-- through a panel that nests too deep.
inductive Walk (limit : Nat) : Place → Nat → List Token → List Event → Place → Nat → Prop where
  | stay {place depth} : Walk limit place depth [] [] place depth
  | onward {place depth token next deeper event tokens events last final} :
      (∀ line, place.step limit depth line token = .goOn next deeper event) →
      Walk limit next deeper tokens events last final →
      Walk limit place depth (token :: tokens) (event.toList ++ events) last final

variable {limit depth deeper final between : Nat} {place next last other : Place} {token : Token}
  {ts us : List Token} {es fs : List Event}

-- A token inside of a statement.
theorem Walk.move (hstep : ∀ line, place.step limit depth line token = .goOn next deeper none)
    (h : Walk limit next deeper ts es last final) :
    Walk limit place depth (token :: ts) es last final :=
  .onward hstep h

-- The last token of a statement.
theorem Walk.complete {event : Event}
    (hstep : ∀ line, place.step limit depth line token = .goOn next deeper (some event))
    (h : Walk limit next deeper ts es last final) :
    Walk limit place depth (token :: ts) (event :: es) last final :=
  .onward hstep h

theorem Walk.append (h : Walk limit place depth ts es last between)
    (h' : Walk limit last between us fs other final) :
    Walk limit place depth (ts ++ us) (es ++ fs) other final := by
  induction h with
  | stay => exact h'
  | onward hstep _ ih =>
      rw [List.append_assoc]
      exact .onward hstep (ih h')

theorem Walk.of_progress {event : Option Event}
    (h : place.Progress limit depth token next deeper event) :
    Walk limit place depth [token] event.toList next deeper := by
  have hwalk : Walk limit place depth [token] (event.toList ++ []) next deeper :=
    .onward (fun line => h.step_eq limit line (Nat.le_refl _)) .stay
  rwa [List.append_nil] at hwalk

theorem Walk.mono {more : Nat} (hmore : limit ≤ more)
    (h : Walk limit place depth ts es last final) : Walk more place depth ts es last final := by
  induction h with
  | stay => exact .stay
  | onward hstep _ ih =>
      have hprogress := Place.Progress.of_steps hstep
      exact .onward (fun line => hprogress.step_eq more line hmore) ih

-- Along a walk the place always expects something, no more panels are open than may be, and
-- the blocks that are open follow from the kinds.
theorem Walk.invariant (h : Walk limit place depth ts es last final)
    (hlive : place.expected ≠ []) (hdepth : depth ≤ limit)
    (hstart : place = .window → depth = 0) :
    last.expected ≠ [] ∧ final ≤ limit ∧
      (ts.map Token.kind).foldl Block.after (place.blocks depth) = last.blocks final := by
  induction h with
  | stay => exact ⟨hlive, hdepth, rfl⟩
  | onward hstep _ ih =>
      have hprogress := Place.Progress.of_steps hstep
      obtain ⟨hlast, hfinal, hblocks⟩ := ih hprogress.expected_ne_nil (hprogress.depth_le hdepth)
        fun hnext => absurd hnext hprogress.ne_window
      refine ⟨hlast, hfinal, ?_⟩
      rw [List.map_cons, List.foldl_cons, ← hprogress.blocks_eq hstart, hblocks]

-- The same of a walk from the beginning of a document.

theorem Walk.expected_ne_nil (h : Walk limit .window 0 ts es last final) : last.expected ≠ [] :=
  (h.invariant (by simp [Place.expected]) (Nat.zero_le _) fun _ => rfl).1

theorem Walk.depth_le (h : Walk limit .window 0 ts es last final) : final ≤ limit :=
  (h.invariant (by simp [Place.expected]) (Nat.zero_le _) fun _ => rfl).2.1

theorem Arrangement.walk (a : Arrangement) :
    Walk limit .layout depth a.clause [.layout a.layout] (.widgets true) depth := by
  obtain _ | ⟨rows, columns, _ | ⟨horizontal, vertical⟩⟩ := a
  · exact .move (fun _ => rfl) (.move (fun _ => rfl) (.complete (fun _ => rfl) .stay))
  · iterate 7 refine .move (fun _ => rfl) ?_
    exact .complete (fun _ => rfl) .stay
  · iterate 11 refine .move (fun _ => rfl) ?_
    exact .complete (fun _ => rfl) .stay

theorem walk_radio (first : Bool) (label : String) :
    Walk limit (.radios first) depth (radio label) [.radio label] (.radios false) depth :=
  .move (fun _ => rfl) (.move (fun _ => rfl) (.complete (fun _ => rfl) .stay))

theorem walk_radios (labels : List String) :
    Walk limit (.radios false) depth (labels.flatMap radio) (labels.map .radio) (.radios false)
      depth := by
  induction labels with
  | nil => exact .stay
  | cons label labels ih => exact (walk_radio false label).append ih

mutual

theorem Element.walk (e : Element) (first : Bool) (depth : Nat)
    (h : depth + e.widget.depth ≤ limit) :
    Walk limit (.widgets first) depth e.tokens e.widget.events (.widgets false) depth := by
  cases e with
  | button | label | textField =>
      exact .move (fun _ => rfl) (.move (fun _ => rfl) (.complete (fun _ => rfl) .stay))
  | group label labels =>
      have hopening : Walk limit (.widgets first) depth [.keyword .group] [.openGroup]
          (.radios true) depth := .complete (fun _ => rfl) .stay
      have hclosing : Walk limit (.radios false) depth blockEnd [.closeGroup] (.widgets false)
          depth := .move (fun _ => rfl) (.complete (fun _ => rfl) .stay)
      exact (hopening.append ((walk_radio true label).append (walk_radios labels))).append hclosing
  | panel a e es =>
      simp only [widget, Widget.depth, Widget.depthAll] at h
      have hlt : depth < limit := by omega
      have hopening : Walk limit (.widgets first) depth [.keyword .panel] [.openPanel] .layout
          (depth + 1) := .complete (fun _ => if_pos hlt) .stay
      have hcontent := (Element.walk e true (depth + 1) (by omega)).append
        (Element.walkAll es (depth + 1) (by omega))
      have hclosing : Walk limit (.widgets false) (depth + 1) blockEnd [.closePanel]
          (.widgets false) depth := .move (fun _ => rfl) (.complete (fun _ => rfl) .stay)
      have hwalk := ((hopening.append a.walk).append hcontent).append hclosing
      exact hwalk

theorem Element.walkAll (es : List Element) (depth : Nat)
    (h : depth + Widget.depthAll (widgets es) ≤ limit) :
    Walk limit (.widgets false) depth (tokensAll es) (Widget.eventsAll (widgets es))
      (.widgets false) depth := by
  cases es with
  | nil => exact .stay
  | cons e es =>
      simp only [widgets, Widget.depthAll] at h
      exact (Element.walk e false depth (by omega)).append (Element.walkAll es depth (by omega))

end

-- A document is walked through up to its period if its panels do not nest too deep.
theorem Document.walk (d : Document) (h : d.window.depth ≤ limit) :
    ∃ front events, d.tokens = front ++ [.period] ∧ d.window.events = events ++ [.showWindow] ∧
      Walk limit .window 0 front events .windowEnd 0 := by
  simp only [window, Window.depth, Widget.depthAll] at h
  have hopening : Walk limit .window 0
      [.keyword .window, .string d.title, .openParen, .number d.width, .comma, .number d.height,
        .closeParen]
      [.openWindow d.title d.width.toInt32 d.height.toInt32] .layout 0 := by
    iterate 6 refine .move (fun _ => rfl) ?_
    exact .complete (fun _ => rfl) .stay
  have hcontent : Walk limit (.widgets true) 0 _ _ (.widgets false) 0 :=
    (Element.walk d.first true 0 (by omega)).append (Element.walkAll d.others 0 (by omega))
  have hclosing : Walk limit (.widgets false) 0 [.keyword .finish] [] .windowEnd 0 :=
    .move (fun _ => rfl) .stay
  refine ⟨_, _, ?_, ?_, ((hopening.append d.arrangement.walk).append hcontent).append hclosing⟩
  · simp [tokens]
  · simp [window, Window.events, Widget.eventsAll]

end WindowDoc.Grammar
