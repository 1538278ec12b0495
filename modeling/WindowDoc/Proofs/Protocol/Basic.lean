import WindowDoc.Proofs.Outline

namespace WindowDoc

namespace Call

-- The container that a call speaks of: what it arranges, adds to or shows.
def home? : Call → Option ContainerId
  | createWindow .. | beginRadioGroup _ => none
  | setLayout home _ | addButton home _ | addLabel home _ | addTextField home _
  | beginPanel home _ | addRadioButton _ home _ | showWindow home => some home

-- The group that a call speaks of.
def member? : Call → Option GroupId
  | addRadioButton group .. => some group
  | _ => none

def IsOpening (call : Call) : Prop :=
  ∃ id title width height, call = .createWindow id title width height

end Call

namespace Protocol

-- Every call satisfies something together with the calls before it and those after it.
def Everywhere (P : List Call → Call → List Call → Prop) (calls : List Call) : Prop :=
  ∀ front call back, calls = front ++ call :: back → P front call back

-- A container, or something inside of it, by the calls that made the panels.
inductive Within (calls : List Call) (outer : ContainerId) : ContainerId → Prop where
  | self : Within calls outer outer
  | panel {parent id} : .beginPanel parent id ∈ calls → Within calls outer parent →
      Within calls outer id

-- What can be relied on by whoever receives the calls.
structure Orderly (calls : List Call) : Prop where
  -- a window comes first, and there is no other
  opening : Everywhere (fun front call _ => front = [] ↔ call.IsOpening) calls
  -- no number is given twice
  containers : (calls.filterMap Call.container?).Nodup
  groups : (calls.filterMap Call.group?).Nodup
  -- whatever a call speaks of was made before
  home : Everywhere (fun front call _ =>
    ∀ id ∈ call.home?, id ∈ front.filterMap Call.container?) calls
  member : Everywhere (fun front call _ =>
    ∀ group ∈ call.member?, group ∈ front.filterMap Call.group?) calls
  -- a container is arranged as soon as it is made, and never again
  arranged : Everywhere (fun front call back => ∀ id ∈ call.container?, back = [] ∨
    ∃ layout rest, back = .setLayout id layout :: rest ∧
      ∀ other, .setLayout id other ∉ front ++ rest) calls
  -- a panel that has been left is not returned to, and neither is anything inside of it
  nested : Everywhere (fun _ call back => ∀ parent panel, call = .beginPanel parent panel →
    back.Pairwise fun earlier later => (∃ home ∈ earlier.home?, ¬ Within calls panel home) →
      ∀ home ∈ later.home?, ¬ Within calls panel home) calls
  -- the buttons of a group come right after it, all of them for the same container
  buttons : Everywhere (fun front call back => ∀ group, call = .beginRadioGroup group →
    ∃ (home : ContainerId) (labels : List String) (rest : List Call),
      back = labels.map (.addRadioButton group home) ++ rest ∧
        ∀ other ∈ front ++ rest, other.member? ≠ some group) calls

variable {calls : List Call} {call : Call} {P : List Call → Call → List Call → Prop}

theorem everywhere_nil : Everywhere P [] := fun _ _ _ h => by simp at h

theorem everywhere_concat_iff : Everywhere P (calls ++ [call]) ↔
    Everywhere (fun front other back => P front other (back ++ [call])) calls ∧
      P calls call [] := by
  constructor
  · intro h
    exact ⟨fun front other back hsplit => h front other (back ++ [call]) (by simp [hsplit]),
      h calls call [] rfl⟩
  · rintro ⟨hbefore, hlast⟩ front other back hsplit
    obtain rfl | ⟨back, last, rfl⟩ := back.eq_nil_or_concat'
    · obtain ⟨rfl, hother⟩ := List.append_inj' hsplit rfl
      rwa [← List.singleton_inj.mp hother]
    · rw [← List.cons_append, ← List.append_assoc] at hsplit
      obtain ⟨hcalls, hother⟩ := List.append_inj' hsplit rfl
      rw [← List.singleton_inj.mp hother]
      exact hbefore front other back hcalls

theorem everywhere_cons_iff : Everywhere P (call :: calls) ↔
    P [] call calls ∧ Everywhere (fun front => P (call :: front)) calls := by
  constructor
  · intro h
    exact ⟨h [] call calls rfl, fun front other back hsplit =>
      h (call :: front) other back (congrArg (call :: ·) hsplit)⟩
  · rintro ⟨hfirst, hrest⟩ front other back hsplit
    cases front with
    | nil =>
        obtain ⟨rfl, rfl⟩ := List.cons.inj hsplit
        exact hfirst
    | cons first front =>
        obtain ⟨rfl, hcalls⟩ := List.cons.inj hsplit
        exact hrest front other back hcalls

theorem everywhere_singleton_iff : Everywhere P [call] ↔ P [] call [] := by
  rw [← List.nil_append [call], everywhere_concat_iff, and_iff_right everywhere_nil]

-- What is told apart by a list without repetitions occurs once.
theorem eq_of_nodup_filterMap {α β : Type} {f : α → Option β} {xs : List α} {x y : α} {b : β}
    (h : (xs.filterMap f).Nodup) (hx : x ∈ xs) (hy : y ∈ xs) (hb : f x = some b)
    (hsame : f y = some b) : x = y := by
  by_contra hne
  have hpairwise := List.pairwise_filterMap.mp h
  obtain ⟨front, back, rfl⟩ := List.mem_iff_append.mp hx
  rw [List.pairwise_append, List.pairwise_cons] at hpairwise
  obtain ⟨-, ⟨hback, -⟩, hfront⟩ := hpairwise
  rw [List.mem_append, List.mem_cons] at hy
  obtain hmem | rfl | hmem := hy
  · exact hfront y hmem x List.mem_cons_self b hsame b hb rfl
  · exact hne rfl
  · exact hback y hmem b hb b hsame rfl

-- A group is begun at one place only.
theorem eq_of_begun {group : GroupId} {front back front' back' : List Call}
    (h : (calls.filterMap Call.group?).Nodup) (hgroup : call.group? = some group)
    (hsplit : calls = front ++ call :: back) (hsplit' : calls = front' ++ call :: back') :
    front = front' ∧ back = back' := by
  have honce {before after : List Call} (hcalls : calls = before ++ call :: after) :
      call ∉ before ∧ call ∉ after := by
    rw [hcalls, List.filterMap_append, List.filterMap_cons_some hgroup, List.nodup_append,
      List.nodup_cons] at h
    constructor
    · intro hmem
      exact h.2.2 group (List.mem_filterMap.mpr ⟨call, hmem, hgroup⟩) group List.mem_cons_self rfl
    · intro hmem
      exact h.2.1.1 (List.mem_filterMap.mpr ⟨call, hmem, hgroup⟩)
  have hsame := hsplit.symm.trans hsplit'
  rw [List.append_cons_inj_of_notMem (honce hsplit).1 (honce hsplit).2] at hsame
  exact ⟨hsame.1, hsame.2.2⟩

theorem Within.mono {more : List Call} {outer id : ContainerId} (h : Within calls outer id)
    (hmore : ∀ call ∈ calls, call ∈ more) : Within more outer id := by
  induction h with
  | self => exact .self
  | panel hcall _ ih => exact .panel (hmore _ hcall) ih

-- Whatever is spoken of has been made.

theorem mem_made (h : Everywhere (fun front call _ =>
      ∀ id ∈ call.home?, id ∈ front.filterMap Call.container?) calls) {id : ContainerId}
    (hcall : call ∈ calls) (hid : id ∈ call.home?) : id ∈ calls.filterMap Call.container? := by
  obtain ⟨front, back, rfl⟩ := List.mem_iff_append.mp hcall
  rw [List.filterMap_append]
  exact List.mem_append_left _ (h front call back rfl id hid)

theorem mem_begun (h : Everywhere (fun front call _ =>
      ∀ group ∈ call.member?, group ∈ front.filterMap Call.group?) calls) {group : GroupId}
    (hcall : call ∈ calls) (hgroup : group ∈ call.member?) :
    group ∈ calls.filterMap Call.group? := by
  obtain ⟨front, back, rfl⟩ := List.mem_iff_append.mp hcall
  rw [List.filterMap_append]
  exact List.mem_append_left _ (h front call back rfl group hgroup)

-- Where a container is does not change when more of them are made.
theorem within_concat_iff (h : Everywhere (fun front call _ =>
      ∀ id ∈ call.home?, id ∈ front.filterMap Call.container?) calls)
    (hfresh : ∀ id ∈ call.container?, id ∉ calls.filterMap Call.container?)
    {outer id : ContainerId} (hid : id ∈ calls.filterMap Call.container?) :
    Within (calls ++ [call]) outer id ↔ Within calls outer id := by
  constructor
  · intro hwithin
    induction hwithin with
    | self => exact .self
    | panel hmem _ ih =>
        rw [List.mem_append, List.mem_singleton] at hmem
        obtain hmem | rfl := hmem
        · exact .panel hmem (ih (mem_made h hmem rfl))
        · exact absurd hid (hfresh _ rfl)
  · intro hwithin
    exact hwithin.mono fun _ => List.mem_append_left _

theorem Orderly.nil : Orderly [] where
  opening := everywhere_nil
  containers := List.nodup_nil
  groups := List.nodup_nil
  home := everywhere_nil
  member := everywhere_nil
  arranged := everywhere_nil
  nested := everywhere_nil
  buttons := everywhere_nil

-- A call that may come next.
structure Allowed (calls : List Call) (call : Call) : Prop where
  opening : calls = [] ↔ call.IsOpening
  container : ∀ id ∈ call.container?, id ∉ calls.filterMap Call.container?
  group : ∀ group ∈ call.group?, group ∉ calls.filterMap Call.group?
  home : ∀ id ∈ call.home?, id ∈ calls.filterMap Call.container?
  -- the container that has just been made waits for its layout, and no other does
  arranged : ∀ id, (∃ last ∈ calls.getLast?, last.container? = some id) ↔
    ∃ layout, call = .setLayout id layout
  -- not into a panel that has been left
  nested : Everywhere (fun _ other back => ∀ parent panel, other = .beginPanel parent panel →
    ∀ earlier ∈ back, (∃ home ∈ earlier.home?, ¬ Within calls panel home) →
      ∀ home ∈ call.home?, ¬ Within calls panel home) calls
  -- a button comes right after its group or after another button of it
  buttons : ∀ group ∈ call.member?, ∃ (front : List Call) (home : ContainerId)
    (labels : List String) (label : String),
      calls = front ++ .beginRadioGroup group :: labels.map (.addRadioButton group home) ∧
        call = .addRadioButton group home label

theorem Allowed.member (hcall : Allowed calls call) :
    ∀ group ∈ call.member?, group ∈ calls.filterMap Call.group? := by
  intro group hgroup
  obtain ⟨front, home, labels, label, rfl, -⟩ := hcall.buttons group hgroup
  rw [List.filterMap_append]
  exact List.mem_append_right _ List.mem_cons_self

namespace Orderly

theorem opening_concat (h : Orderly calls) (hcall : Allowed calls call) :
    Everywhere (fun front call _ => front = [] ↔ call.IsOpening) (calls ++ [call]) :=
  everywhere_concat_iff.mpr ⟨h.opening, hcall.opening⟩

theorem containers_concat (h : Orderly calls) (hcall : Allowed calls call) :
    ((calls ++ [call]).filterMap Call.container?).Nodup := by
  rw [List.filterMap_append, List.nodup_append]
  refine ⟨h.containers, ?_, ?_⟩
  · cases hid : call.container? <;> simp [hid]
  · intro id hmem other hother
    rintro rfl
    simp only [List.mem_filterMap, List.mem_singleton, exists_eq_left] at hother
    exact hcall.container id hother hmem

theorem groups_concat (h : Orderly calls) (hcall : Allowed calls call) :
    ((calls ++ [call]).filterMap Call.group?).Nodup := by
  rw [List.filterMap_append, List.nodup_append]
  refine ⟨h.groups, ?_, ?_⟩
  · cases hid : call.group? <;> simp [hid]
  · intro group hmem other hother
    rintro rfl
    simp only [List.mem_filterMap, List.mem_singleton, exists_eq_left] at hother
    exact hcall.group group hother hmem

-- A container that has just been made has no layout yet.
theorem setLayout_notMem (h : Orderly calls) {id : ContainerId} {last : Call}
    (hlast : last ∈ calls.getLast?) (hid : last.container? = some id) (layout : Layout) :
    .setLayout id layout ∉ calls := by
  intro hmem
  obtain ⟨front, back, rfl⟩ := List.mem_iff_append.mp hmem
  have hmade := h.home front (.setLayout id layout) back rfl id rfl
  have hnodup := h.containers
  rw [List.filterMap_append, List.filterMap_cons_none rfl, List.nodup_append] at hnodup
  obtain rfl | ⟨back, other, rfl⟩ := back.eq_nil_or_concat'
  · simp only [List.getLast?_concat, Option.mem_some_iff] at hlast
    subst hlast
    cases hid
  · rw [← List.cons_append, ← List.append_assoc, List.getLast?_concat, Option.mem_some_iff] at hlast
    subst hlast
    refine hnodup.2.2 id hmade id ?_ rfl
    rw [List.mem_filterMap]
    exact ⟨other, by simp, hid⟩

theorem arranged_concat (h : Orderly calls) (hcall : Allowed calls call) :
    Everywhere (fun front call back => ∀ id ∈ call.container?, back = [] ∨
      ∃ layout rest, back = .setLayout id layout :: rest ∧
        ∀ other, .setLayout id other ∉ front ++ rest) (calls ++ [call]) := by
  rw [everywhere_concat_iff]
  refine ⟨fun front made back hsplit id hid => ?_, fun id _ => .inl rfl⟩
  right
  obtain rfl | ⟨layout, rest, rfl, hnone⟩ := h.arranged front made back hsplit id hid
  · have hlast : made ∈ calls.getLast? := by simp [hsplit]
    obtain ⟨layout, rfl⟩ := (hcall.arranged id).mp ⟨made, hlast, hid⟩
    refine ⟨layout, [], rfl, fun other hmem => ?_⟩
    apply h.setLayout_notMem hlast hid other
    rw [hsplit]
    simp_all
  · refine ⟨layout, rest ++ [call], rfl, fun other hmem => ?_⟩
    rw [← List.append_assoc, List.mem_append, List.mem_singleton] at hmem
    obtain hmem | rfl := hmem
    · exact hnone other hmem
    · obtain ⟨last, hlast, hid⟩ := (hcall.arranged id).mpr ⟨other, rfl⟩
      apply h.setLayout_notMem hlast hid layout
      simp [hsplit]

theorem nested_concat (h : Orderly calls) (hcall : Allowed calls call) :
    Everywhere (fun _ other back => ∀ parent panel, other = .beginPanel parent panel →
      back.Pairwise fun earlier later =>
        (∃ home ∈ earlier.home?, ¬ Within (calls ++ [call]) panel home) →
          ∀ home ∈ later.home?, ¬ Within (calls ++ [call]) panel home) (calls ++ [call]) := by
  rw [everywhere_concat_iff]
  refine ⟨fun front made back hsplit parent panel hpanel => ?_, fun _ _ _ => .nil⟩
  have hsame {other : Call} (hother : other ∈ back) {home : ContainerId}
      (hhome : home ∈ other.home?) :
      Within (calls ++ [call]) panel home ↔ Within calls panel home := by
    apply within_concat_iff h.home hcall.container
    have hmem : other ∈ calls := by simp [hsplit, hother]
    exact mem_made h.home hmem hhome
  rw [List.pairwise_append]
  refine ⟨?_, List.pairwise_singleton _ _, ?_⟩
  · refine (h.nested front made back hsplit parent panel hpanel).imp_of_mem ?_
    rintro earlier later hearlier hlater hleft ⟨home, hhome, hout⟩ inner hinner
    rw [hsame hlater hinner]
    exact hleft ⟨home, hhome, by rwa [← hsame hearlier hhome]⟩ inner hinner
  · rintro earlier hearlier later hlater ⟨home, hhome, hout⟩ inner hinner
    obtain rfl := List.mem_singleton.mp hlater
    rw [within_concat_iff h.home hcall.container (hcall.home inner hinner)]
    exact hcall.nested front made back hsplit parent panel hpanel earlier hearlier
      ⟨home, hhome, by rwa [← hsame hearlier hhome]⟩ inner hinner

theorem buttons_concat (h : Orderly calls) (hcall : Allowed calls call) :
    Everywhere (fun front call back => ∀ group, call = .beginRadioGroup group →
      ∃ (home : ContainerId) (labels : List String) (rest : List Call),
        back = labels.map (.addRadioButton group home) ++ rest ∧
          ∀ other ∈ front ++ rest, other.member? ≠ some group) (calls ++ [call]) := by
  rw [everywhere_concat_iff]
  constructor
  · rintro front begun back hsplit group rfl
    obtain ⟨home, labels, rest, rfl, hnone⟩ := h.buttons front _ back hsplit group rfl
    by_cases hmember : call.member? = some group
    · obtain ⟨front', home', labels', label, hbegun, rfl⟩ := hcall.buttons group hmember
      obtain ⟨rfl, hback⟩ := eq_of_begun h.groups rfl hsplit hbegun
      refine ⟨home', labels' ++ [label], [], by simp [hback], fun other hother => ?_⟩
      rw [List.append_nil] at hother
      exact hnone other (List.mem_append_left _ hother)
    · refine ⟨home, labels, rest ++ [call], by simp, fun other hother => ?_⟩
      rw [← List.append_assoc, List.mem_append, List.mem_singleton] at hother
      obtain hother | rfl := hother
      · exact hnone other hother
      · exact hmember
  · rintro group rfl
    refine ⟨⟨0⟩, [], [], rfl, fun other hother hmember => ?_⟩
    rw [List.append_nil] at hother
    exact hcall.group group rfl (mem_begun h.member hother hmember)

theorem concat (h : Orderly calls) (hcall : Allowed calls call) : Orderly (calls ++ [call]) where
  opening := h.opening_concat hcall
  containers := h.containers_concat hcall
  groups := h.groups_concat hcall
  home := everywhere_concat_iff.mpr ⟨h.home, hcall.home⟩
  member := everywhere_concat_iff.mpr ⟨h.member, hcall.member⟩
  arranged := h.arranged_concat hcall
  nested := h.nested_concat hcall
  buttons := h.buttons_concat hcall

-- What is left when the last call is taken away is in order as well.

theorem fresh_of_concat (h : Orderly (calls ++ [call])) {id : ContainerId}
    (hid : id ∈ call.container?) : id ∉ calls.filterMap Call.container? := by
  have hnodup := h.containers
  rw [List.filterMap_append, List.nodup_append] at hnodup
  intro hmade
  exact hnodup.2.2 id hmade id (List.mem_filterMap.mpr ⟨call, List.mem_singleton_self _, hid⟩) rfl

theorem nested_of_concat (h : Orderly (calls ++ [call])) :
    Everywhere (fun _ other back => ∀ parent panel, other = .beginPanel parent panel →
      back.Pairwise fun earlier later => (∃ home ∈ earlier.home?, ¬ Within calls panel home) →
        ∀ home ∈ later.home?, ¬ Within calls panel home) calls := by
  intro front made back hsplit parent panel hpanel
  have hhome := (everywhere_concat_iff.mp h.home).1
  have hpairwise := (everywhere_concat_iff.mp h.nested).1 front made back hsplit parent panel hpanel
  rw [List.pairwise_append] at hpairwise
  refine hpairwise.1.imp_of_mem ?_
  rintro earlier later hearlier - hleft ⟨home, hid, hout⟩ inner hinner hwithin
  have hmem : earlier ∈ calls := by simp [hsplit, hearlier]
  have hmade := mem_made hhome hmem hid
  refine hleft ⟨home, hid, ?_⟩ inner hinner (hwithin.mono fun _ => List.mem_append_left _)
  rwa [within_concat_iff hhome (fun _ => h.fresh_of_concat) hmade]

theorem buttons_of_concat (h : Orderly (calls ++ [call])) :
    Everywhere (fun front other back => ∀ group, other = .beginRadioGroup group →
      ∃ (home : ContainerId) (labels : List String) (rest : List Call),
        back = labels.map (.addRadioButton group home) ++ rest ∧
          ∀ other ∈ front ++ rest, other.member? ≠ some group) calls := by
  intro front begun back hsplit group hgroup
  obtain ⟨home, labels, rest, hback, hnone⟩ :=
    (everywhere_concat_iff.mp h.buttons).1 front begun back hsplit group hgroup
  obtain rfl | ⟨rest, last, rfl⟩ := rest.eq_nil_or_concat'
  · obtain rfl | ⟨labels, label, rfl⟩ := labels.eq_nil_or_concat'
    · simp at hback
    · rw [List.append_nil, List.map_append] at hback
      obtain ⟨rfl, -⟩ := List.append_inj' hback rfl
      exact ⟨home, labels, [], (List.append_nil _).symm, hnone⟩
  · rw [← List.append_assoc] at hback
    obtain ⟨rfl, -⟩ := List.append_inj' hback rfl
    rw [← List.append_assoc] at hnone
    exact ⟨home, labels, rest, rfl, fun other hother => hnone other (List.mem_append_left _ hother)⟩

theorem of_concat (h : Orderly (calls ++ [call])) : Orderly calls where
  opening := (everywhere_concat_iff.mp h.opening).1
  containers := h.containers.sublist ((List.sublist_append_left _ _).filterMap _)
  groups := h.groups.sublist ((List.sublist_append_left _ _).filterMap _)
  home := (everywhere_concat_iff.mp h.home).1
  member := (everywhere_concat_iff.mp h.member).1
  arranged := by
    intro front made back hsplit id hid
    obtain hback | ⟨layout, rest, hback, hnone⟩ :=
      (everywhere_concat_iff.mp h.arranged).1 front made back hsplit id hid
    · simp at hback
    · obtain _ | ⟨next, back⟩ := back
      · exact .inl rfl
      · rw [List.cons_append, List.cons.injEq] at hback
        obtain ⟨rfl, rfl⟩ := hback
        refine .inr ⟨layout, back, rfl, fun other hmem => hnone other ?_⟩
        rw [← List.append_assoc]
        exact List.mem_append_left _ hmem
  nested := h.nested_of_concat
  buttons := h.buttons_of_concat

theorem of_append {more : List Call} (h : Orderly (calls ++ more)) : Orderly calls := by
  induction more generalizing calls with
  | nil => rwa [List.append_nil] at h
  | cons call more ih =>
      rw [List.append_cons] at h
      exact (ih h).of_concat

end Orderly

end Protocol

end WindowDoc
