import WindowDoc.Proofs.Grammar.Script
import WindowDoc.Proofs.Grammar.Viable

namespace WindowDoc.Grammar

-- A scripted text that leads from one place to another while it is recorded: each token
-- completes just the statement that makes the call which the script gives it.
inductive Enacts (limit : Nat) : Place → Nat → Scene Recording ContainerId GroupId →
    List (Token × Option Call) → Place → Nat → Scene Recording ContainerId GroupId → Prop where
  | stay {place depth scene} : Enacts limit place depth scene [] place depth scene
  | onward {place depth scene token call next deeper event acted rest last final drawn} :
      (∀ line, place.step limit depth line token = .goOn next deeper event) →
      (scene.performAll Recording.renderer event.toList).value = acted →
      acted.state.calls = scene.state.calls ++ call.toList →
      Enacts limit next deeper acted rest last final drawn →
      Enacts limit place depth scene ((token, call) :: rest) last final drawn

namespace Enacts

variable {limit depth deeper between final : Nat} {place next last other : Place} {token : Token}
  {scene acted drawn : Scene Recording ContainerId GroupId}
  {xs ys rest : List (Token × Option Call)}

theorem silent (hstep : ∀ line, place.step limit depth line token = .goOn next deeper none)
    (h : Enacts limit next deeper scene rest last final drawn) :
    Enacts limit place depth scene ((token, none) :: rest) last final drawn := by
  have hacted : (scene.performAll Recording.renderer []).value = scene := rfl
  exact .onward hstep hacted (by simp) h

theorem call {event : Event} {call : Call}
    (hstep : ∀ line, place.step limit depth line token = .goOn next deeper (some event))
    (hacted : (scene.perform Recording.renderer event).value = acted)
    (hcall : acted.state.calls = scene.state.calls.push call)
    (h : Enacts limit next deeper acted rest last final drawn) :
    Enacts limit place depth scene ((token, some call) :: rest) last final drawn :=
  .onward hstep hacted (by simpa using hcall) h

theorem append (h : Enacts limit place depth scene xs last between acted)
    (h' : Enacts limit last between acted ys other final drawn) :
    Enacts limit place depth scene (xs ++ ys) other final drawn := by
  induction h with
  | stay => exact h'
  | onward hstep hacted hcall _ ih => exact .onward hstep hacted hcall (ih h')

-- Whatever begins the script is enacted on its own.
theorem exists_of_append (h : Enacts limit place depth scene (xs ++ ys) last final drawn) :
    ∃ next deeper acted, Enacts limit place depth scene xs next deeper acted := by
  induction xs generalizing place depth scene with
  | nil => exact ⟨_, _, _, .stay⟩
  | cons x xs ih =>
      cases h with
      | onward hstep hacted hcall hrest =>
          obtain ⟨next, deeper, acted, hxs⟩ := ih hrest
          exact ⟨next, deeper, acted, .onward hstep hacted hcall hxs⟩

-- Enacting a script is a walk that makes the calls of the script.
theorem exists_walk (h : Enacts limit place depth scene xs last final drawn) :
    ∃ events, Walk limit place depth (xs.map Prod.fst) events last final ∧
      (scene.performAll Recording.renderer events).value.state.calls.toList =
        scene.state.calls.toList ++ xs.filterMap Prod.snd := by
  induction h with
  | stay => exact ⟨[], .stay, by simp [Scene.performAll]⟩
  | @onward place depth scene token call next deeper event acted rest _ _ _ hstep hacted hcall
      _ ih =>
      obtain ⟨events, hwalk, hcalls⟩ := ih
      refine ⟨event.toList ++ events, .onward hstep hwalk, ?_⟩
      rw [Scene.performAll_append, hacted, hcalls, hcall]
      cases call <;> simp

end Enacts

-- Numbering goes on from the containers and groups that have been made.

section

variable (limit depth : Nat) (calls : Array Call) (made begun : Nat) (home : ContainerId)
  (outer : List ContainerId)

theorem Arrangement.enacts (a : Arrangement) :
    Enacts limit .layout depth ⟨⟨calls, made, begun⟩, home :: outer, none⟩ (a.script home)
      (.widgets true) depth
      ⟨⟨calls.push (.setLayout home a.layout), made, begun⟩, home :: outer, none⟩ := by
  obtain _ | ⟨rows, columns, _ | ⟨horizontal, vertical⟩⟩ := a
  · iterate 2 refine .silent (fun _ => rfl) ?_
    exact .call (fun _ => rfl) rfl rfl .stay
  · iterate 7 refine .silent (fun _ => rfl) ?_
    exact .call (fun _ => rfl) rfl rfl .stay
  · iterate 11 refine .silent (fun _ => rfl) ?_
    exact .call (fun _ => rfl) rfl rfl .stay

theorem enacts_radio (group : GroupId) (first : Bool) (label : String) :
    Enacts limit (.radios first) depth ⟨⟨calls, made, begun⟩, home :: outer, some group⟩
      (radioScript group home label) (.radios false) depth
      ⟨⟨calls.push (.addRadioButton group home label), made, begun⟩, home :: outer,
        some group⟩ := by
  iterate 2 refine .silent (fun _ => rfl) ?_
  exact .call (fun _ => rfl) rfl rfl .stay

theorem enacts_radios (group : GroupId) (labels : List String) :
    ∃ more, Enacts limit (.radios false) depth
      ⟨⟨calls, made, begun⟩, home :: outer, some group⟩
      (labels.flatMap (radioScript group home)) (.radios false) depth
      ⟨⟨more, made, begun⟩, home :: outer, some group⟩ := by
  induction labels generalizing calls with
  | nil => exact ⟨calls, .stay⟩
  | cons label labels ih =>
      obtain ⟨more, hrest⟩ := ih (calls.push (.addRadioButton group home label))
      exact ⟨more, (enacts_radio limit depth calls made begun home outer group false label).append
        hrest⟩

end

variable {limit : Nat}

mutual

theorem Element.enacts (calls : Array Call) (made begun : Nat) (home : ContainerId)
    (outer : List ContainerId) (e : Element) (first : Bool) (depth : Nat)
    (h : depth + e.widget.depth ≤ limit) :
    ∃ more, Enacts limit (.widgets first) depth ⟨⟨calls, made, begun⟩, home :: outer, none⟩
      (e.script home made begun) (.widgets false) depth
      ⟨⟨more, made + e.widget.panels, begun + e.widget.groups⟩, home :: outer, none⟩ := by
  cases e with
  | button | label | textField =>
      exact ⟨_, .silent (fun _ => rfl) (.silent (fun _ => rfl)
        (.call (fun _ => rfl) rfl rfl .stay))⟩
  | group label labels =>
      have hopening : Enacts limit (.widgets first) depth
          ⟨⟨calls, made, begun⟩, home :: outer, none⟩
          (statement [] (.keyword .group) (.beginRadioGroup ⟨begun⟩)) (.radios true) depth
          ⟨⟨calls.push (.beginRadioGroup ⟨begun⟩), made, begun + 1⟩, home :: outer,
            some ⟨begun⟩⟩ := .call (fun _ => rfl) rfl rfl .stay
      have hradio := enacts_radio limit depth (calls.push (.beginRadioGroup ⟨begun⟩)) made
        (begun + 1) home outer ⟨begun⟩ true label
      obtain ⟨more, hradios⟩ := enacts_radios limit depth
        ((calls.push (.beginRadioGroup ⟨begun⟩)).push (.addRadioButton ⟨begun⟩ home label)) made
        (begun + 1) home outer ⟨begun⟩ labels
      have hclosing : Enacts limit (.radios false) depth
          ⟨⟨more, made, begun + 1⟩, home :: outer, some ⟨begun⟩⟩ (silent blockEnd)
          (.widgets false) depth ⟨⟨more, made, begun + 1⟩, home :: outer, none⟩ :=
        .silent (fun _ => rfl) (.onward (fun _ => rfl) rfl Array.append_empty.symm .stay)
      rw [widget, Widget.panels, Widget.groups]
      exact ⟨more, (hopening.append (hradio.append hradios)).append hclosing⟩
  | panel a e es =>
      simp only [widget, Widget.depth, Widget.depthAll] at h
      have hlt : depth < limit := by omega
      have hopening : Enacts limit (.widgets first) depth
          ⟨⟨calls, made, begun⟩, home :: outer, none⟩
          (statement [] (.keyword .panel) (.beginPanel home ⟨made⟩)) .layout (depth + 1)
          ⟨⟨calls.push (.beginPanel home ⟨made⟩), made + 1, begun⟩, ⟨made⟩ :: home :: outer,
            none⟩ := .call (fun _ => if_pos hlt) rfl rfl .stay
      have hlayout := a.enacts limit (depth + 1) (calls.push (.beginPanel home ⟨made⟩)) (made + 1)
        begun ⟨made⟩ (home :: outer)
      obtain ⟨drawn, hfirst⟩ := Element.enacts
        ((calls.push (.beginPanel home ⟨made⟩)).push (.setLayout ⟨made⟩ a.layout)) (made + 1) begun
        ⟨made⟩ (home :: outer) e true (depth + 1) (by omega)
      obtain ⟨more, hothers⟩ := Element.enactsAll drawn (made + 1 + e.widget.panels)
        (begun + e.widget.groups) ⟨made⟩ (home :: outer) es (depth + 1) (by omega)
      have hpanels : made + 1 + e.widget.panels + Widget.panelsAll (widgets es) =
          made + (Widget.panelsAll (e.widget :: widgets es) + 1) := by
        rw [Widget.panelsAll]
        omega
      have hgroups : begun + e.widget.groups + Widget.groupsAll (widgets es) =
          begun + Widget.groupsAll (e.widget :: widgets es) := Nat.add_assoc ..
      rw [hpanels, hgroups] at hothers
      have hclosing (drawn : Recording) : Enacts limit (.widgets false) (depth + 1)
          ⟨drawn, ⟨made⟩ :: home :: outer, none⟩ (silent blockEnd) (.widgets false) depth
          ⟨drawn, home :: outer, none⟩ :=
        .silent (fun _ => rfl) (.onward (fun _ => rfl) rfl Array.append_empty.symm .stay)
      rw [widget, Widget.panels, Widget.groups]
      exact ⟨more, ((hopening.append hlayout).append (hfirst.append hothers)).append (hclosing _)⟩

theorem Element.enactsAll (calls : Array Call) (made begun : Nat) (home : ContainerId)
    (outer : List ContainerId) (es : List Element) (depth : Nat)
    (h : depth + Widget.depthAll (widgets es) ≤ limit) :
    ∃ more, Enacts limit (.widgets false) depth ⟨⟨calls, made, begun⟩, home :: outer, none⟩
      (scriptAll home made begun es) (.widgets false) depth
      ⟨⟨more, made + Widget.panelsAll (widgets es), begun + Widget.groupsAll (widgets es)⟩,
        home :: outer, none⟩ := by
  cases es with
  | nil => exact ⟨calls, .stay⟩
  | cons e es =>
      simp only [widgets, Widget.depthAll] at h
      obtain ⟨drawn, hfirst⟩ := Element.enacts calls made begun home outer e false depth (by omega)
      obtain ⟨more, hrest⟩ := Element.enactsAll drawn (made + e.widget.panels)
        (begun + e.widget.groups) home outer es depth (by omega)
      rw [Nat.add_assoc, Nat.add_assoc] at hrest
      exact ⟨more, hfirst.append hrest⟩

end

-- A document within the limit is enacted up to its period.
theorem Document.enacts (d : Document) (h : d.window.depth ≤ limit) :
    ∃ front drawn, d.script = front ++ [(.period, some (.showWindow ⟨0⟩))] ∧
      Enacts limit .window 0 (.start .empty) front .windowEnd 0 drawn := by
  simp only [window, Window.depth, Widget.depthAll] at h
  have hdepth : 0 + d.first.widget.depth ≤ limit := by omega
  have hdepths : 0 + Widget.depthAll (Element.widgets d.others) ≤ limit := by omega
  let opening : Call := .createWindow ⟨0⟩ d.title d.width.toInt32 d.height.toInt32
  have hopening : Enacts limit .window 0 (.start .empty)
      (statement
        [.keyword .window, .string d.title, .openParen, .number d.width, .comma, .number d.height]
        .closeParen opening) .layout 0 ⟨⟨#[opening], 1, 0⟩, [⟨0⟩], none⟩ := by
    iterate 6 refine .silent (fun _ => rfl) ?_
    exact .call (fun _ => rfl) rfl rfl .stay
  have hlayout := d.arrangement.enacts limit 0 #[opening] 1 0 ⟨0⟩ []
  obtain ⟨drawn, hfirst⟩ := Element.enacts
    #[opening, .setLayout ⟨0⟩ d.arrangement.layout] 1 0 ⟨0⟩ [] d.first true 0 hdepth
  obtain ⟨more, hothers⟩ := Element.enactsAll drawn (1 + d.first.widget.panels)
    (0 + d.first.widget.groups) ⟨0⟩ [] d.others 0 hdepths
  have hclosing (drawn : Scene Recording ContainerId GroupId) :
      Enacts limit (.widgets false) 0 drawn (silent [.keyword .finish]) .windowEnd 0 drawn :=
    .silent (fun _ => rfl) .stay
  refine ⟨_, _, ?_, ((hopening.append hlayout).append (hfirst.append hothers)).append (hclosing _)⟩
  rw [Nat.zero_add, List.append_assoc]
  rfl

-- The tokens of a walk determine what they complete.
theorem Walk.unique {depth final other : Nat} {place last last' : Place} {ts : List Token}
    {es fs : List Event} (h : Walk limit place depth ts es last final)
    (h' : Walk limit place depth ts fs last' other) : es = fs := by
  induction h generalizing fs with
  | stay =>
      cases h'
      rfl
  | onward hstep _ ih =>
      cases h' with
      | onward hstep' hrest =>
          cases (hstep 0).symm.trans (hstep' 0)
          rw [ih hrest]

-- A walk over what a document begins with makes the calls that the script gives it, and stops
-- short of the period.
theorem Walk.exists_script {depth : Nat} {place : Place} {ts : List Token} {es : List Event}
    (h : Walk limit .window 0 ts es place depth) {d : Document} (hbegin : ts <+: d.tokens) :
    ∃ done rest, d.script = done ++ rest ++ [(.period, some (.showWindow ⟨0⟩))] ∧
      done.map Prod.fst = ts ∧
      (Scene.performAll Recording.renderer (.start .empty) es).value.state.calls.toList =
        done.filterMap Prod.snd := by
  have henough : d.window.depth ≤ max limit d.window.depth := Nat.le_max_right ..
  have hwalk := h.mono (Nat.le_max_left limit d.window.depth)
  obtain ⟨front, drawn, hscript, henacts⟩ := d.enacts henough
  have htokens : d.tokens = front.map Prod.fst ++ [.period] := by
    rw [← d.map_fst_script, hscript, List.map_append]
    rfl
  rw [htokens, List.prefix_concat_iff] at hbegin
  obtain hwhole | ⟨after, hafter⟩ := hbegin
  · have haccepts := (Grammar.accepts_iff _ _).mpr ⟨d, rfl, henough⟩
    rw [htokens, ← hwhole, ← List.append_nil ts, hwalk.accepts_iff] at haccepts
    exact haccepts.elim
  · obtain ⟨done, rest, rfl, hdone, -⟩ := List.map_eq_append_iff.mp hafter.symm
    obtain ⟨next, deeper, acted, hacted⟩ := henacts.exists_of_append
    obtain ⟨events, hevents, hcalls⟩ := hacted.exists_walk
    rw [hdone] at hevents
    exact ⟨done, rest, hscript, hdone, by rw [hwalk.unique hevents, hcalls]; rfl⟩

end WindowDoc.Grammar
