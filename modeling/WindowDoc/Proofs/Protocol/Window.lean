import WindowDoc.Proofs.Protocol.Basic

namespace WindowDoc

namespace Protocol

variable {calls : List Call} {call : Call} {home id : ContainerId} {outer : List ContainerId}
  {group : GroupId} {made begun : Nat}

-- A container and those around it, innermost first: panels, each of them made in the next one,
-- and a window around them all.
inductive Nested (calls : List Call) : ContainerId → List ContainerId → Prop where
  | window {id title width height} : .createWindow id title width height ∈ calls →
      Nested calls id []
  | panel {parent id outer} : .beginPanel parent id ∈ calls → Nested calls parent outer →
      Nested calls id (parent :: outer)

namespace Nested

theorem mono {more : List Call} (h : Nested calls home outer)
    (hmore : ∀ call ∈ calls, call ∈ more) : Nested more home outer := by
  induction h with
  | window hcall => exact .window (hmore _ hcall)
  | panel hcall _ ih => exact .panel (hmore _ hcall) ih

theorem mem_made (h : Nested calls home outer) : home ∈ calls.filterMap Call.container? := by
  cases h with
  | window hcall => exact List.mem_filterMap.mpr ⟨_, hcall, rfl⟩
  | panel hcall _ => exact List.mem_filterMap.mpr ⟨_, hcall, rfl⟩

theorem ne_nil (h : Nested calls home outer) : calls ≠ [] := by
  rintro rfl
  exact List.not_mem_nil h.mem_made

-- No other containers are around it than these.
theorem within_iff (h : Nested calls home outer) (hmade : (calls.filterMap Call.container?).Nodup)
    {panel : ContainerId} : Within calls panel home ↔ panel = home ∨ panel ∈ outer := by
  induction h with
  | @window id title width height hcall =>
      constructor
      · intro hwithin
        cases hwithin with
        | self => exact .inl rfl
        | panel hmem _ => cases eq_of_nodup_filterMap hmade hmem hcall rfl rfl
      · rintro (rfl | hmem)
        · exact .self
        · cases hmem
  | @panel parent id outer hcall _ ih =>
      rw [List.mem_cons, ← ih]
      constructor
      · intro hwithin
        cases hwithin with
        | self => exact .inl rfl
        | panel hmem hrest =>
            cases eq_of_nodup_filterMap hmade hmem hcall rfl rfl
            exact .inr hrest
      · rintro (rfl | hrest)
        · exact .self
        · exact .panel hcall hrest

end Nested

-- In the course of a document: the calls so far, the container that is filled and those around
-- it, and how many containers and groups were numbered.
structure Inside (calls : List Call) (home : ContainerId) (outer : List ContainerId)
    (made begun : Nat) : Prop where
  orderly : Orderly calls
  stack : Nested calls home outer
  -- none of the open panels has been left so far
  held : Everywhere (fun _ call back => ∀ parent panel, call = .beginPanel parent panel →
    panel = home ∨ panel ∈ outer → ∀ later ∈ back, ∀ id ∈ later.home?, Within calls panel id) calls
  containers : ∀ id ∈ calls.filterMap Call.container?, id.index < made
  groups : ∀ group ∈ calls.filterMap Call.group?, group.index < begun

-- No container waits for its layout.
structure Ready (calls : List Call) (home : ContainerId) (outer : List ContainerId)
    (made begun : Nat) : Prop extends Inside calls home outer made begun where
  settled : ∀ last ∈ calls.getLast?, last.container? = none

-- What may be done with a container that does not wait for its layout.
inductive Next (home : ContainerId) (made begun : Nat) : Call → Prop where
  | button (label : String) : Next home made begun (.addButton home label)
  | label (text : String) : Next home made begun (.addLabel home text)
  | textField (columns : Int32) : Next home made begun (.addTextField home columns)
  | panel : Next home made begun (.beginPanel home ⟨made⟩)
  | group : Next home made begun (.beginRadioGroup ⟨begun⟩)
  | show : Next home made begun (.showWindow home)

namespace Inside

-- What is done with the innermost container is no return to a panel that has been left.
theorem nested_of_home (h : Inside calls home outer made begun)
    (hhome : ∀ id ∈ call.home?, id = home) :
    Everywhere (fun _ other back => ∀ parent panel, other = .beginPanel parent panel →
      ∀ earlier ∈ back, (∃ home ∈ earlier.home?, ¬ Within calls panel home) →
        ∀ home ∈ call.home?, ¬ Within calls panel home) calls := by
  rintro front other back hsplit parent panel hpanel earlier hearlier ⟨id, hid, hout⟩ inner hinner
  obtain rfl := hhome inner hinner
  rw [h.stack.within_iff h.orderly.containers]
  intro hopen
  exact hout (h.held front other back hsplit parent panel hpanel hopen earlier hearlier id hid)

theorem fresh_container (h : Inside calls home outer made begun) :
    ContainerId.mk made ∉ calls.filterMap Call.container? :=
  fun hmem => Nat.lt_irrefl _ (h.containers _ hmem)

theorem fresh_group (h : Inside calls home outer made begun) :
    GroupId.mk begun ∉ calls.filterMap Call.group? :=
  fun hmem => Nat.lt_irrefl _ (h.groups _ hmem)

theorem allowed_setLayout (h : Inside calls home outer made begun)
    (hwaits : ∃ last ∈ calls.getLast?, last.container? = some home) (layout : Layout) :
    Allowed calls (.setLayout home layout) where
  opening := iff_of_false h.stack.ne_nil (by simp [Call.IsOpening])
  container := by simp [Call.container?]
  group := by simp [Call.group?]
  home := fun _ hid => Option.some.inj hid ▸ h.stack.mem_made
  arranged := by
    obtain ⟨last, hlast, hmade⟩ := hwaits
    intro id
    constructor
    · rintro ⟨other, hother, hid⟩
      cases Option.mem_unique hother hlast
      cases hmade.symm.trans hid
      exact ⟨layout, rfl⟩
    · rintro ⟨other, hcall⟩
      cases hcall
      exact ⟨last, hlast, hmade⟩
  nested := h.nested_of_home fun _ hid => (Option.some.inj hid).symm
  buttons := by simp [Call.member?]

theorem concat {made' begun' : Nat} (h : Inside calls home outer made begun)
    (hcall : Allowed calls call) (hhome : ∀ id ∈ call.home?, id = home)
    (hmade : made ≤ made') (hcontainer : ∀ id ∈ call.container?, id.index < made')
    (hbegun : begun ≤ begun') (hgroup : ∀ group ∈ call.group?, group.index < begun') :
    Inside (calls ++ [call]) home outer made' begun' where
  orderly := h.orderly.concat hcall
  stack := h.stack.mono fun _ => List.mem_append_left _
  held := by
    rw [everywhere_concat_iff]
    refine ⟨fun front other back hsplit parent panel hpanel hopen later hlater id hid => ?_, ?_⟩
    · have hwithin : Within calls panel id := by
        rw [List.mem_append, List.mem_singleton] at hlater
        obtain hlater | rfl := hlater
        · exact h.held front other back hsplit parent panel hpanel hopen later hlater id hid
        · rw [hhome id hid, h.stack.within_iff h.orderly.containers]
          exact hopen
      exact hwithin.mono fun _ => List.mem_append_left _
    · exact fun _ _ _ _ _ hlater => absurd hlater List.not_mem_nil
  containers := by
    intro id hid
    rw [List.filterMap_append, List.mem_append] at hid
    obtain hid | hid := hid
    · exact Nat.lt_of_lt_of_le (h.containers id hid) hmade
    · simp only [List.mem_filterMap, List.mem_singleton, exists_eq_left] at hid
      exact hcontainer id hid
  groups := by
    intro group hid
    rw [List.filterMap_append, List.mem_append] at hid
    obtain hid | hid := hid
    · exact Nat.lt_of_lt_of_le (h.groups group hid) hbegun
    · simp only [List.mem_filterMap, List.mem_singleton, exists_eq_left] at hid
      exact hgroup group hid

-- Go into the panel that has just been made.
theorem enter (h : Inside (calls ++ [.beginPanel home id]) home outer made begun) :
    Inside (calls ++ [.beginPanel home id]) id (home :: outer) made begun where
  orderly := h.orderly
  stack := .panel (List.mem_append_right _ (List.mem_singleton_self _)) h.stack
  held := by
    have hheld := everywhere_concat_iff.mp h.held
    rw [everywhere_concat_iff]
    refine ⟨fun front other back hsplit parent panel hpanel hopen => ?_, ?_⟩
    · rw [List.mem_cons] at hopen
      obtain rfl | hopen := hopen
      · refine absurd (List.mem_filterMap.mpr ⟨other, ?_, ?_⟩) (h.orderly.fresh_of_concat rfl)
        · simp [hsplit]
        · rw [hpanel]
          rfl
      · exact hheld.1 front other back hsplit parent panel hpanel hopen
    · exact fun _ _ _ _ _ hlater => absurd hlater List.not_mem_nil
  containers := h.containers
  groups := h.groups

-- Go back from a panel to what is around it.
theorem leave (h : Inside calls id (home :: outer) made begun) :
    Inside calls home outer made begun where
  orderly := h.orderly
  stack := by
    cases h.stack with
    | panel _ hstack => exact hstack
  held := fun front other back hsplit parent panel hpanel hopen =>
    h.held front other back hsplit parent panel hpanel (.inr (List.mem_cons.mpr hopen))
  containers := h.containers
  groups := h.groups

end Inside

namespace Ready

theorem allowed (h : Ready calls home outer made begun) (hcall : Next home made begun call) :
    Allowed calls call where
  opening := by
    refine iff_of_false h.stack.ne_nil ?_
    cases hcall <;> simp [Call.IsOpening]
  container := by
    cases hcall with
    | panel => exact fun id hid => Option.some.inj hid ▸ h.fresh_container
    | _ => simp [Call.container?]
  group := by
    cases hcall with
    | group => exact fun id hid => Option.some.inj hid ▸ h.fresh_group
    | _ => simp [Call.group?]
  home := by
    have hmade := h.stack.mem_made
    cases hcall <;> simp_all [Call.home?]
  arranged := by
    intro id
    refine iff_of_false ?_ ?_
    · rintro ⟨last, hlast, hid⟩
      cases (h.settled last hlast).symm.trans hid
    · cases hcall <;> simp
  nested := h.nested_of_home (by cases hcall <;> simp [Call.home?])
  buttons := by cases hcall <;> simp [Call.member?]

-- One more button for the group that was begun last.
theorem allowed_radio (h : Ready calls home outer made begun) {front : List Call}
    {labels : List String}
    (hbegun : calls = front ++ .beginRadioGroup group :: labels.map (.addRadioButton group home))
    (label : String) : Allowed calls (.addRadioButton group home label) where
  opening := iff_of_false h.stack.ne_nil (by simp [Call.IsOpening])
  container := by simp [Call.container?]
  group := by simp [Call.group?]
  home := fun _ hid => Option.some.inj hid ▸ h.stack.mem_made
  arranged := by
    intro id
    refine iff_of_false ?_ (by simp)
    rintro ⟨last, hlast, hid⟩
    cases (h.settled last hlast).symm.trans hid
  nested := h.nested_of_home fun _ hid => (Option.some.inj hid).symm
  buttons := by
    rintro other hother
    obtain rfl := Option.some.inj hother
    exact ⟨front, home, labels, label, hbegun, rfl⟩

-- A call that makes no container leaves none waiting.
theorem concat (h : Inside (calls ++ [call]) home outer made begun)
    (hcall : call.container? = none) : Ready (calls ++ [call]) home outer made begun where
  toInside := h
  settled := by
    intro last hlast
    rw [List.getLast?_concat, Option.mem_some_iff] at hlast
    rwa [← hlast]

-- A call that makes nothing.
theorem concat_next (h : Ready calls home outer made begun) (hcall : Next home made begun call)
    (hcontainer : call.container? = none) (hgroup : call.group? = none) :
    Ready (calls ++ [call]) home outer made begun := by
  refine concat (h.toInside.concat (h.allowed hcall) ?_ (Nat.le_refl _) ?_ (Nat.le_refl _) ?_)
    hcontainer
  · cases hcall <;> simp [Call.home?]
  · simp [hcontainer]
  · simp [hgroup]

theorem panel (h : Ready calls home outer made begun) (layout : Layout) :
    Ready (calls ++ [.beginPanel home ⟨made⟩, .setLayout ⟨made⟩ layout]) ⟨made⟩ (home :: outer)
      (made + 1) begun := by
  have hpanel : Inside (calls ++ [.beginPanel home ⟨made⟩]) home outer (made + 1) begun := by
    refine h.toInside.concat (h.allowed .panel) ?_ (Nat.le_succ _) ?_ (Nat.le_refl _) ?_ <;>
      simp [Call.home?, Call.container?, Call.group?]
  have hallowed := hpanel.enter.allowed_setLayout ⟨_, List.getLast?_concat, rfl⟩ layout
  rw [List.append_cons]
  refine concat (hpanel.enter.concat hallowed ?_ (Nat.le_refl _) ?_ (Nat.le_refl _) ?_) rfl <;>
    simp [Call.home?, Call.container?, Call.group?]

theorem radios {front : List Call} (labels more : List String)
    (h : Ready (front ++ .beginRadioGroup group :: labels.map (.addRadioButton group home)) home
      outer made begun) :
    Ready (front ++ .beginRadioGroup group :: (labels ++ more).map (.addRadioButton group home))
      home outer made begun := by
  induction more generalizing labels with
  | nil => rwa [List.append_nil]
  | cons label more ih =>
      rw [List.append_cons labels]
      apply ih (labels ++ [label])
      rw [List.map_append, ← List.cons_append, ← List.append_assoc]
      refine concat (h.toInside.concat (h.allowed_radio rfl label) ?_ (Nat.le_refl _) ?_
        (Nat.le_refl _) ?_) rfl <;> simp [Call.home?, Call.container?, Call.group?]

theorem radioGroup (h : Ready calls home outer made begun) (labels : List String) :
    Ready (calls ++ .beginRadioGroup ⟨begun⟩ :: labels.map (.addRadioButton ⟨begun⟩ home)) home
      outer made (begun + 1) := by
  apply radios [] labels
  refine concat (h.toInside.concat (h.allowed .group) ?_ (Nat.le_refl _) ?_ (Nat.le_succ _) ?_)
    rfl <;> simp [Call.home?, Call.container?, Call.group?]

end Ready

end Protocol

open Protocol

mutual

-- A widget can be put into a container that waits for nothing, and then it is the same with the
-- next widget.
theorem Widget.ready_calls {calls : List Call} {home : ContainerId} {outer : List ContainerId}
    {made begun : Nat} : (widget : Widget) → Ready calls home outer made begun →
    Ready (calls ++ widget.calls home made begun) home outer (made + widget.panels)
      (begun + widget.groups)
  | .button caption, h => h.concat_next (.button caption) rfl rfl
  | .label text, h => h.concat_next (.label text) rfl rfl
  | .textField columns, h => h.concat_next (.textField columns) rfl rfl
  | .panel layout children, h => by
      have hchildren := Widget.ready_callsAll children (h.panel layout)
      rw [Widget.calls, ← List.append_assoc, Widget.panels, Nat.add_comm (panelsAll children),
        ← Nat.add_assoc]
      exact ⟨hchildren.toInside.leave, hchildren.settled⟩
  | .radioGroup labels, h => h.radioGroup labels

theorem Widget.ready_callsAll {calls : List Call} {home : ContainerId} {outer : List ContainerId}
    {made begun : Nat} : (widgets : List Widget) → Ready calls home outer made begun →
    Ready (calls ++ callsAll home made begun widgets) home outer (made + panelsAll widgets)
      (begun + groupsAll widgets)
  | [], h => by rwa [callsAll, List.append_nil]
  | widget :: rest, h => by
      have hrest := Widget.ready_callsAll rest (Widget.ready_calls widget h)
      rwa [callsAll, ← List.append_assoc, panelsAll, groupsAll, ← Nat.add_assoc, ← Nat.add_assoc]

end

-- The calls for a window are in order.
theorem Window.orderly_calls (w : Window) (made begun : Nat) : Orderly (w.calls made begun) := by
  have hallowed : Allowed [] (.createWindow ⟨made⟩ w.title w.width w.height) := by
    constructor <;> simp [everywhere_nil, Call.IsOpening, Call.container?, Call.group?, Call.home?,
      Call.member?]
  have hopening : Inside [.createWindow ⟨made⟩ w.title w.width w.height] ⟨made⟩ [] (made + 1)
      begun := by
    refine ⟨Orderly.nil.concat hallowed, .window (List.mem_singleton_self _), ?_, ?_, ?_⟩
    · rw [everywhere_singleton_iff]
      exact fun _ _ _ _ _ hlater => absurd hlater List.not_mem_nil
    · simp [Call.container?]
    · simp [Call.group?]
  have hlayout := hopening.allowed_setLayout ⟨_, rfl, rfl⟩ w.layout
  have hready : Ready [.createWindow ⟨made⟩ w.title w.width w.height, .setLayout ⟨made⟩ w.layout]
      ⟨made⟩ [] (made + 1) begun := by
    refine Ready.concat (hopening.concat hlayout ?_ (Nat.le_refl _) ?_ (Nat.le_refl _) ?_) rfl <;>
      simp [Call.home?, Call.container?, Call.group?]
  have hchildren := Widget.ready_callsAll w.children hready
  exact hchildren.orderly.concat (hchildren.allowed .show)

end WindowDoc
