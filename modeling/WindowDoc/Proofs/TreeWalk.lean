import WindowDoc.Proofs.CanonicalForm
import WindowDoc.Proofs.Protocol.Basic
import Mathlib.Data.List.Dedup
import Mathlib.Data.List.Forall2

namespace WindowDoc

namespace Call

-- The calls that widgets come from.
def isWidget : Call → Bool
  | addButton .. | addLabel .. | addTextField .. | beginPanel .. | beginRadioGroup _ => true
  | _ => false

def layout? : Call → Option Layout
  | setLayout _ layout => some layout
  | _ => none

def label? : Call → Option String
  | addRadioButton _ _ label => some label
  | _ => none

-- The calls that speak of a container.
def about (id : ContainerId) (calls : List Call) : List Call := calls.filter (·.home? = some id)

-- The calls that speak of a group, which are those of its buttons.
def naming (mark : GroupId) (calls : List Call) : List Call := calls.filter (·.member? = some mark)

-- How many widgets, panels and groups the calls about a container bring to it. A group is brought
-- by any number of buttons.
def attached (own : List Call) : Nat := own.countP isWidget + (own.filterMap member?).dedup.length

-- The widget that a call leads to among the calls that it is one of.
inductive Gives (calls : List Call) : Call → Widget → Prop where
  | button (home : ContainerId) (caption : String) :
      Gives calls (.addButton home caption) (.button caption)
  | label (home : ContainerId) (text : String) : Gives calls (.addLabel home text) (.label text)
  | textField (home : ContainerId) (columns : Int32) :
      Gives calls (.addTextField home columns) (.textField columns)
  | panel {parent id : ContainerId} {layout : Layout} {children : List Widget} :
      (about id calls).filterMap layout? = [layout] →
      children.length = attached (about id calls) →
      Gives calls (.beginPanel parent id) (.panel layout children)
  | group {mark : GroupId} {labels : List String} : labels = (naming mark calls).filterMap label? →
      Gives calls (.beginRadioGroup mark) (.radioGroup labels)

variable {calls front seg back others : List Call} {call : Call} {id home : ContainerId}
  {mark : GroupId} {widget : Widget}

theorem about_append (more : List Call) :
    about id (calls ++ more) = about id calls ++ about id more :=
  List.filter_append ..

theorem about_eq_nil (h : ∀ call ∈ calls, call.home? ≠ some id) : about id calls = [] := by
  simpa [about] using h

theorem naming_append (more : List Call) :
    naming mark (calls ++ more) = naming mark calls ++ naming mark more :=
  List.filter_append ..

theorem naming_eq_nil (h : ∀ call ∈ calls, call.member? ≠ some mark) : naming mark calls = [] := by
  simpa [naming] using h

-- Other calls do not speak of what a call makes.
structure Apart (call : Call) (others : List Call) : Prop where
  container : ∀ id ∈ call.container?, ∀ other ∈ others, other.home? ≠ some id
  group : ∀ mark ∈ call.group?, ∀ other ∈ others, other.member? ≠ some mark

theorem Apart.nil (call : Call) : Apart call [] := ⟨by simp, by simp⟩

theorem Gives.widen (h : Gives seg call widget) (hfront : Apart call front)
    (hback : Apart call back) : Gives (front ++ seg ++ back) call widget := by
  cases h with
  | button => exact .button ..
  | label => exact .label ..
  | textField => exact .textField ..
  | @panel parent id layout children hlayout hchildren =>
      have hsame : about id (front ++ seg ++ back) = about id seg := by
        rw [about_append, about_append, about_eq_nil (hfront.container id rfl),
          about_eq_nil (hback.container id rfl), List.nil_append, List.append_nil]
      rw [← hsame] at hlayout hchildren
      exact .panel hlayout hchildren
  | @group mark labels hlabels =>
      have hsame : naming mark (front ++ seg ++ back) = naming mark seg := by
        rw [naming_append, naming_append, naming_eq_nil (hfront.group mark rfl),
          naming_eq_nil (hback.group mark rfl), List.nil_append, List.append_nil]
      rw [← hsame] at hlabels
      exact .group hlabels

theorem forall₂_gives_widen {started : List Call} {widgets : List Widget}
    (h : List.Forall₂ (Gives seg) started widgets) (hcalls : calls = front ++ seg ++ back)
    (hapart : ∀ call ∈ started, Apart call front ∧ Apart call back) :
    List.Forall₂ (Gives calls) started widgets := by
  rw [hcalls]
  refine ((List.forall₂_and_left _ _).mpr ⟨hapart, h⟩).imp ?_
  rintro call widget ⟨⟨hfront, hback⟩, hgives⟩
  exact hgives.widen hfront hback

-- The numbers that a call speaks of are that of a container and others within bounds.
structure InRange (home : ContainerId) (made made' begun begun' : Nat) (call : Call) : Prop where
  home : ∀ id ∈ call.home?, id = home ∨ made ≤ id.index ∧ id.index < made'
  container : ∀ id ∈ call.container?, made ≤ id.index ∧ id.index < made'
  member : ∀ mark ∈ call.member?, begun ≤ mark.index ∧ mark.index < begun'
  group : ∀ mark ∈ call.group?, begun ≤ mark.index ∧ mark.index < begun'

namespace InRange

variable {outer : ContainerId} {made made' begun begun' low high low' high' : Nat}

theorem widen (h : InRange home made made' begun begun' call)
    (hhome : home = outer ∨ low ≤ home.index ∧ home.index < high) (hlow : low ≤ made)
    (hhigh : made' ≤ high) (hlow' : low' ≤ begun) (hhigh' : begun' ≤ high') :
    InRange outer low high low' high' call where
  home := by
    intro id hid
    obtain rfl | hbounds := h.home id hid
    · exact hhome
    · omega
  container := by
    intro id hid
    have hbounds := h.container id hid
    omega
  member := by
    intro mark hmark
    have hbounds := h.member mark hmark
    omega
  group := by
    intro mark hmark
    have hbounds := h.group mark hmark
    omega

-- Calls with other numbers are apart, if the container that they speak of was made before.
theorem apart (h : InRange home made made' begun begun' call) (houter : outer.index < made)
    (hothers : ∀ other ∈ others, InRange outer low high low' high' other)
    (hmade : made' ≤ low ∨ high ≤ made) (hbegun : begun' ≤ low' ∨ high' ≤ begun) :
    Apart call others where
  container := by
    intro id hid other hother hsame
    have hbounds := h.container id hid
    obtain rfl | hother := (hothers other hother).home id hsame
    · omega
    · omega
  group := by
    intro mark hmark other hother hsame
    have hbounds := h.group mark hmark
    have hother := (hothers other hother).member mark hsame
    omega

end InRange

theorem attached_append {own more : List Call}
    (h : (own.filterMap member?).Disjoint (more.filterMap member?)) :
    attached (own ++ more) = attached own + attached more := by
  rw [attached, List.countP_append, List.filterMap_append, h.dedup_append, List.length_append]
  simp only [attached]
  omega

end Call

namespace Widget

open Call

variable {home : ContainerId} {made begun : Nat}

theorem inRange_opening (home : ContainerId) (made begun : Nat) (layout : Layout) :
    ∀ call ∈ [Call.beginPanel home ⟨made⟩, .setLayout ⟨made⟩ layout],
      InRange home made (made + 1) begun begun call := by
  refine List.forall_mem_cons.mpr
      ⟨⟨?_, ?_, ?_, ?_⟩, List.forall_mem_singleton.mpr ⟨?_, ?_, ?_, ?_⟩⟩ <;>
    simp [home?, container?, member?, group?]

mutual

theorem inRange_calls (home : ContainerId) (made begun : Nat) : (widget : Widget) →
    ∀ call ∈ widget.calls home made begun,
      InRange home made (made + widget.panels) begun (begun + widget.groups) call
  | .button _ | .label _ | .textField _ => by
      refine List.forall_mem_singleton.mpr ⟨?_, ?_, ?_, ?_⟩ <;>
        simp [home?, container?, member?, group?]
  | .panel layout children => by
      have hpanels : (panel layout children).panels = panelsAll children + 1 := rfl
      refine List.forall_mem_append.mpr ⟨fun call hcall => ?_, fun call hcall => ?_⟩
      · have hbounds := inRange_opening home made begun layout call hcall
        exact hbounds.widen (.inl rfl) (Nat.le_refl made) (by omega) (Nat.le_refl begun)
          (Nat.le_add_right ..)
      · have hinside := inRange_callsAll ⟨made⟩ (made + 1) begun children call hcall
        refine hinside.widen (.inr ⟨Nat.le_refl made, ?_⟩) (Nat.le_succ made) ?_ (Nat.le_refl begun)
          (Nat.le_refl _)
        · exact Nat.lt_add_of_pos_right (Nat.succ_pos _)
        · omega
  | .radioGroup labels => by
      refine List.forall_mem_append.mpr ⟨List.forall_mem_singleton.mpr ⟨?_, ?_, ?_, ?_⟩, ?_⟩
      · simp [home?]
      · simp [container?]
      · simp [member?]
      · simp [group?, groups]
      · refine List.forall_mem_map.mpr fun label _ => ⟨?_, ?_, ?_, ?_⟩ <;>
          simp [home?, container?, member?, group?, groups]

theorem inRange_callsAll (home : ContainerId) (made begun : Nat) : (widgets : List Widget) →
    ∀ call ∈ callsAll home made begun widgets,
      InRange home made (made + panelsAll widgets) begun (begun + groupsAll widgets) call
  | [] => by simp [callsAll]
  | widget :: rest => by
      have hpanels : panelsAll (widget :: rest) = widget.panels + panelsAll rest := rfl
      have hgroups : groupsAll (widget :: rest) = widget.groups + groupsAll rest := rfl
      refine List.forall_mem_append.mpr ⟨fun call hcall => ?_, fun call hcall => ?_⟩
      · refine (inRange_calls home made begun widget call hcall).widen (.inl rfl) ?_ ?_ ?_ ?_ <;>
          omega
      · refine (inRange_callsAll home _ _ rest call hcall).widen (.inl rfl) ?_ ?_ ?_ ?_ <;> omega

end

-- The calls that put a widget into its container.
def own (home : ContainerId) (made begun : Nat) : Widget → List Call
  | button caption => [.addButton home caption]
  | label text => [.addLabel home text]
  | textField columns => [.addTextField home columns]
  | panel _ _ => [.beginPanel home ⟨made⟩]
  | radioGroup labels => labels.map (.addRadioButton ⟨begun⟩ home)

theorem about_calls (hhome : home.index < made) (begun : Nat) (widget : Widget) :
    about home (widget.calls home made begun) = widget.own home made begun := by
  cases widget with
  | button | label | textField => simp [calls, own, about, home?]
  | panel layout children =>
      have hinner : about home (callsAll ⟨made⟩ (made + 1) begun children) = [] := by
        refine about_eq_nil fun call hcall hsame => ?_
        obtain rfl | hbounds := (inRange_callsAll _ _ _ _ call hcall).home home hsame
        · exact Nat.lt_irrefl _ hhome
        · omega
      have hne : ContainerId.mk made ≠ home := by
        rintro rfl
        exact Nat.lt_irrefl _ hhome
      rw [calls, about_append, hinner]
      simp [own, about, home?, hne]
  | radioGroup labels => simp [calls, own, about, home?]

theorem attached_own (home : ContainerId) (made begun : Nat) {widget : Widget}
    (hfilled : widget.GroupsFilled) : attached (widget.own home made begun) = 1 := by
  cases widget with
  | button | label | textField | panel => rfl
  | radioGroup labels =>
      have hmembers : (labels.map (addRadioButton ⟨begun⟩ home)).filterMap member? =
          List.replicate labels.length ⟨begun⟩ := by
        simp [member?, List.filterMap_map, Function.comp_def]
      have hlength : labels.length ≠ 0 := mt List.length_eq_zero_iff.mp hfilled
      rw [own, attached, hmembers, List.replicate_dedup hlength]
      simp [isWidget]

theorem layouts_own (home : ContainerId) (made begun : Nat) (widget : Widget) :
    (widget.own home made begun).filterMap layout? = [] := by
  cases widget with
  | button | label | textField | panel => rfl
  | radioGroup labels => simp [own, layout?]

theorem attached_about_callsAll (hhome : home.index < made) (begun : Nat) {widgets : List Widget}
    (hfilled : GroupsFilledAll widgets) :
    attached (about home (callsAll home made begun widgets)) = widgets.length := by
  induction widgets generalizing made begun with
  | nil => rfl
  | cons widget rest ih =>
      rw [callsAll, about_append, attached_append, about_calls hhome, attached_own _ _ _ hfilled.1,
        ih (by omega) _ hfilled.2, List.length_cons, Nat.add_comm]
      -- the groups of one widget come before those of the next one
      intro mark hmark hmark'
      obtain ⟨call, hcall, hmember⟩ := List.mem_filterMap.mp hmark
      obtain ⟨later, hlater, hmember'⟩ := List.mem_filterMap.mp hmark'
      have hbounds := (inRange_calls _ _ _ _ call (List.mem_filter.mp hcall).1).member mark hmember
      have hbounds' :=
        (inRange_callsAll _ _ _ _ later (List.mem_filter.mp hlater).1).member mark hmember'
      omega

theorem layouts_about_callsAll (hhome : home.index < made) (begun : Nat) (widgets : List Widget) :
    (about home (callsAll home made begun widgets)).filterMap layout? = [] := by
  induction widgets generalizing made begun with
  | nil => rfl
  | cons widget rest ih =>
      rw [callsAll, about_append, List.filterMap_append, about_calls hhome, layouts_own,
        ih (by omega), List.append_nil]

-- What is said of the container that a panel makes, and of the group that is begun.

theorem about_calls_panel (hhome : home.index < made) (begun : Nat) (layout : Layout)
    (children : List Widget) :
    about ⟨made⟩ (calls home made begun (.panel layout children)) =
      .setLayout ⟨made⟩ layout :: about ⟨made⟩ (callsAll ⟨made⟩ (made + 1) begun children) := by
  have hne : home ≠ ⟨made⟩ := by
    rintro rfl
    exact Nat.lt_irrefl _ hhome
  rw [calls, about_append]
  simp [about, home?, hne]

theorem naming_calls_radioGroup (home : ContainerId) (made begun : Nat) (labels : List String) :
    naming ⟨begun⟩ (calls home made begun (.radioGroup labels)) =
      labels.map (.addRadioButton ⟨begun⟩ home) := by
  have hbuttons : naming ⟨begun⟩ (labels.map (.addRadioButton ⟨begun⟩ home)) =
      labels.map (.addRadioButton ⟨begun⟩ home) :=
    List.filter_eq_self.mpr (by simp [member?])
  rw [calls, naming_append, hbuttons]
  rfl

-- What the calls of one widget give they give among the calls of the others as well, since these
-- speak of other numbers.

mutual

theorem gives_calls (home : ContainerId) (made begun : Nat) (hhome : home.index < made) :
    (widget : Widget) → widget.GroupsFilled →
    List.Forall₂ (Gives (widget.calls home made begun))
      ((widget.calls home made begun).filter isWidget) widget.flatten
  | .button _, _ => .cons (.button ..) .nil
  | .label _, _ => .cons (.label ..) .nil
  | .textField _, _ => .cons (.textField ..) .nil
  | .panel layout children, hfilled => by
      have hmade := Nat.lt_succ_self made
      have hinside := gives_callsAll ⟨made⟩ (made + 1) begun hmade children hfilled
      have hstarted : (calls home made begun (.panel layout children)).filter isWidget =
          .beginPanel home ⟨made⟩ :: (callsAll ⟨made⟩ (made + 1) begun children).filter isWidget :=
        rfl
      rw [hstarted, flatten]
      refine .cons (.panel ?_ ?_) ?_
      · rw [about_calls_panel hhome]
        exact congrArg (layout :: ·) (layouts_about_callsAll hmade begun children)
      · rw [about_calls_panel hhome]
        exact (attached_about_callsAll hmade begun hfilled).symm
      · refine forall₂_gives_widen hinside (List.append_nil _).symm fun call hcall =>
          ⟨?_, .nil call⟩
        have hbounds := inRange_callsAll _ _ _ _ call (List.mem_filter.mp hcall).1
        exact hbounds.apart (Nat.lt_succ_of_lt hhome) (inRange_opening home made begun layout)
          (.inr (Nat.le_refl _)) (.inr (Nat.le_refl begun))
  | .radioGroup labels, _ => by
      have hstarted : (calls home made begun (.radioGroup labels)).filter isWidget =
          [.beginRadioGroup ⟨begun⟩] := by
        have hbuttons : (labels.map (.addRadioButton ⟨begun⟩ home)).filter isWidget = [] :=
          List.filter_eq_nil_iff.mpr (by simp [isWidget])
        rw [calls, List.filter_append, hbuttons]
        rfl
      rw [hstarted, flatten]
      · refine .cons (.group ?_) .nil
        rw [naming_calls_radioGroup, List.filterMap_map]
        exact List.filterMap_some.symm
      · nofun

theorem gives_callsAll (home : ContainerId) (made begun : Nat) (hhome : home.index < made) :
    (widgets : List Widget) → GroupsFilledAll widgets →
    List.Forall₂ (Gives (callsAll home made begun widgets))
      ((callsAll home made begun widgets).filter isWidget) (flattenAll widgets)
  | [], _ => .nil
  | widget :: rest, hfilled => by
      have hfirst := gives_calls home made begun hhome widget hfilled.1
      have hrest := gives_callsAll home (made + widget.panels) (begun + widget.groups)
        (Nat.lt_add_right _ hhome) rest hfilled.2
      rw [callsAll, List.filter_append, flattenAll]
      refine List.rel_append ?_ ?_
      · have hcalls (later : List Call) : widget.calls home made begun ++ later =
            [] ++ widget.calls home made begun ++ later := rfl
        refine forall₂_gives_widen hfirst (hcalls _) fun call hcall => ⟨.nil call, ?_⟩
        have hbounds := inRange_calls _ _ _ _ call (List.mem_filter.mp hcall).1
        exact hbounds.apart hhome (inRange_callsAll home _ _ rest) (.inl (Nat.le_refl _))
          (.inl (Nat.le_refl _))
      · refine forall₂_gives_widen hrest (List.append_nil _).symm fun call hcall =>
          ⟨?_, .nil call⟩
        have hbounds := inRange_callsAll _ _ _ _ call (List.mem_filter.mp hcall).1
        exact hbounds.apart (Nat.lt_add_right _ hhome) (inRange_calls home made begun widget)
          (.inr (Nat.le_refl _)) (.inr (Nat.le_refl _))

end

end Widget

variable {options : Options} {source : String} {w : Window}

open Call

theorem Window.gives_calls (w : Window) (hfilled : Widget.GroupsFilledAll w.children) :
    List.Forall₂ (Gives (w.calls 0 0)) ((w.calls 0 0).filter isWidget) w.widgets := by
  have hinside := Widget.gives_callsAll ⟨0⟩ 1 0 Nat.one_pos w.children hfilled
  have hstarted : (w.calls 0 0).filter isWidget =
      (Widget.callsAll ⟨0⟩ 1 0 w.children).filter isWidget := by
    simp [calls, isWidget]
  rw [hstarted]
  refine forall₂_gives_widen hinside rfl fun call hcall => ?_
  have hbounds := Widget.inRange_callsAll _ _ _ _ call (List.mem_filter.mp hcall).1
  have hopening : ∀ other ∈ [Call.createWindow ⟨0⟩ w.title w.width w.height,
      .setLayout ⟨0⟩ w.layout], InRange ⟨0⟩ 0 1 0 0 other := by
    refine List.forall_mem_cons.mpr
        ⟨⟨?_, ?_, ?_, ?_⟩, List.forall_mem_singleton.mpr ⟨?_, ?_, ?_, ?_⟩⟩ <;>
      simp [home?, container?, member?, group?]
  have hclosing : ∀ other ∈ [Call.showWindow ⟨0⟩], InRange ⟨0⟩ 0 1 0 0 other := by
    refine List.forall_mem_singleton.mpr ⟨?_, ?_, ?_, ?_⟩ <;>
      simp [home?, container?, member?, group?]
  exact ⟨hbounds.apart Nat.one_pos hopening (.inr (Nat.le_refl 1)) (.inr (Nat.le_refl 0)),
    hbounds.apart Nat.one_pos hclosing (.inr (Nat.le_refl 1)) (.inr (Nat.le_refl 0))⟩

-- The widgets of a window, gone through from the outside to the inside, are those that the calls of
-- its document lead to one after the other.
theorem widgets_of_calls (h : (parseWindow options source).value = .ok w) :
    let calls := (parse Recording.renderer options source .empty).value.state.calls.toList
    List.Forall₂ (Gives calls) (calls.filter isWidget) w.widgets := by
  obtain ⟨-, -, hformed⟩ := reading_of_parseWindow h
  rw [calls_parse_recording h]
  exact w.gives_calls hformed.children.groupsFilled

def crowdedText : String :=
  "window \"W\" (640, 480) layout flow: button \"A\";\n"
    ++ "panel layout grid(1, 2): label \"B\"; panel layout flow: textfield 3; end;\n"
    ++ "group radio \"C\"; radio \"D\"; end; end; label \"E\"; end."

def crowdedWindow : Window :=
  ⟨"W", 640, 480, .flow,
    [.button "A",
      .panel (.grid 1 2 none)
        [.label "B", .panel .flow [.textField 3], .radioGroup ["C", "D"]],
      .label "E"]⟩

theorem widgets_of_calls_crowded :
    (parseWindow .standard crowdedText).value = .ok crowdedWindow ∧
    let calls := (parse Recording.renderer .standard crowdedText .empty).value.state.calls.toList
    List.Forall₂ (Gives calls) (calls.filter isWidget) crowdedWindow.widgets := by
  have hread : (parseWindow .standard crowdedText).value = .ok crowdedWindow := by
    decide +kernel
  exact ⟨hread, widgets_of_calls hread⟩

end WindowDoc
