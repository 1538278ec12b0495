import WindowDoc.Proofs.Arena.Exhibits
import WindowDoc.Proofs.Drawing
import WindowDoc.Proofs.RoundTrip

namespace WindowDoc

-- A document shows its window at the very end, and only if nothing was wrong with it.

theorem Place.showWindow_notMem_step {limit depth line deeper : Nat} {place next : Place}
    {token : Token} {event : Option Event}
    (h : place.step limit depth line token = .goOn next deeper event) :
    Event.showWindow ∉ event.toList := by
  rw [Option.mem_toList]
  rintro rfl
  cases place <;>
    simp only [step, Step.onKind, Step.onString, Step.onNumber, Step.move] at h <;>
    repeat' split at h
  all_goals cases h

theorem Lexemes.exists_events {limit depth : Nat} {place : Place} {waiting : Option Event}
    (hwaiting : Event.showWindow ∉ waiting.toList) (lx : Lexemes) :
    ∃ before, Event.showWindow ∉ before ∧
      (lx.reading limit place depth waiting).events = before ++
        match (lx.reading limit place depth waiting).result with
        | .ok () => [.showWindow]
        | .error _ => [] := by
  induction lx generalizing place depth waiting with
  | stopped e => exact ⟨[], List.not_mem_nil, rfl⟩
  | ended position => exact ⟨waiting.toList, hwaiting, Reading.events_after ..⟩
  | cons lexeme rest ih =>
      rw [reading]
      cases hstep : place.step limit depth lexeme.position.line lexeme.token with
      | refused => exact ⟨waiting.toList, hwaiting, Reading.events_after ..⟩
      | finished => exact ⟨waiting.toList, hwaiting, Reading.events_after ..⟩
      | goOn next deeper event =>
          obtain ⟨before, hbefore, hevents⟩ := ih (place.showWindow_notMem_step hstep)
          refine ⟨waiting.toList ++ before, ?_, ?_⟩
          · rw [List.mem_append, not_or]
            exact ⟨hwaiting, hbefore⟩
          · rw [Reading.events_after, hevents, List.append_assoc]
            rfl

theorem Reading.exists_events (limit : Nat) (source : String) :
    ∃ before, Event.showWindow ∉ before ∧
      (Reading.ofText limit source).events = before ++
        match (Reading.ofText limit source).result with
        | .ok () => [.showWindow]
        | .error _ => [] :=
  (Lexemes.ofText source).exists_events List.not_mem_nil

-- There is nothing to warn of as long as all handles stand for something that was made.

namespace Assembler

variable {a : Assembler} {id : ContainerId}

theorem quiet_setLayout (hid : id.index < a.containers.size) (layout : Layout) :
    (renderer.setLayout id layout a).Quiet := by
  simp [renderer, isContainer, hid]

theorem quiet_addSlot (hid : id.index < a.containers.size) (slot : Slot) :
    (a.addSlot id slot).Quiet := by
  simp [addSlot, isContainer, hid]

theorem quiet_beginPanel (hid : id.index < a.containers.size) :
    (renderer.beginPanel id a).Quiet := by
  have hmade : id.index < a.addContainer.2.containers.size := by
    rw [addContainer, Array.size_push]
    exact Nat.lt_succ_of_lt hid
  simpa [renderer] using quiet_addSlot hmade _

theorem quiet_addRadioButton {group : GroupId} (hgroup : group.index < a.groups.size)
    (hid : id.index < a.containers.size) (label : String) :
    (a.addRadioButton group id label).Quiet := by
  rw [addRadioButton, Array.getElem?_eq_getElem hgroup]
  cases a.groups[group.index] <;> simp [isContainer, hid]

-- A window that is shown was waiting.
theorem quiet_showWindow (h : (a.showWindow id).value.windows ≠ a.windows) :
    (a.showWindow id).Quiet := by
  cases hfind : a.pending.find? (·.id = id) with
  | none =>
      rw [showWindow, hfind] at h
      exact absurd rfl h
  | some entry =>
      rw [showWindow, hfind]
      simp [Entry.level]

end Assembler

namespace Scene

open Assembler

variable {scene : Scene Assembler ContainerId GroupId}

-- Whatever is open was made.
structure Known (scene : Scene Assembler ContainerId GroupId) : Prop where
  containers : ∀ id ∈ scene.containers, id.index < scene.state.containers.size
  group : ∀ id ∈ scene.group, id.index < scene.state.groups.size

theorem Known.start (a : Assembler) : Known (.start a) := ⟨by simp [Scene.start], by simp [Scene.start]⟩

theorem Known.after (h : scene.Known) (request : Request ContainerId GroupId) :
    Known { scene with state := scene.state.after request } :=
  ⟨fun id hid => Nat.lt_of_lt_of_le (h.containers id hid) (scene.state.size_le_size_after request),
    fun id hid => Nat.lt_of_lt_of_le (h.group id hid)
      (scene.state.groups_size_le_size_after request)⟩

-- Going on by some calls, without a warning and without a window being shown.
structure Tidy (a : Assembler) (acted : Logged (Scene Assembler ContainerId GroupId)) : Prop where
  quiet : acted.Quiet
  known : acted.value.Known
  windows_eq : acted.value.state.windows = a.windows
  called : ∃ requests, acted.value.state = a.afterAll requests

theorem Known.within (h : scene.Known)
    {act : ContainerId → Logged (Scene Assembler ContainerId GroupId)}
    (hact : ∀ id, id.index < scene.state.containers.size → Tidy scene.state (act id)) :
    Tidy scene.state (scene.within act) := by
  obtain ⟨a, containers, group⟩ := scene
  cases containers with
  | nil => exact ⟨rfl, h, rfl, [], rfl⟩
  | cons id outer => exact hact id (h.containers id List.mem_cons_self)

-- One call that shows nothing.
theorem Known.request (h : scene.Known) (request : Request ContainerId GroupId)
    (hshow : ∀ window, request ≠ .showWindow window) {acted : Logged Assembler}
    (hacted : acted.value = scene.state.after request) (hquiet : acted.Quiet) :
    Tidy scene.state (do return { scene with state := ← acted }) := by
  refine ⟨by simpa using hquiet, ?_, ?_, [request], hacted⟩
  · have hknown := h.after request
    rw [← hacted] at hknown
    exact hknown
  · exact (congrArg Assembler.windows hacted).trans (Assembler.windows_after hshow)

theorem Known.perform (h : scene.Known) {event : Event} (hshow : event ≠ .showWindow) :
    Tidy scene.state (scene.perform renderer event) := by
  cases event with
  | openWindow title width height =>
      have hafter := h.after (.createWindow title width height)
      have hsize := scene.state.size_after_createWindow title width height
      refine ⟨rfl, ⟨List.forall_mem_cons.mpr ⟨?_, hafter.containers⟩, hafter.group⟩, rfl,
        [.createWindow title width height], rfl⟩
      exact Nat.lt_of_lt_of_eq (Nat.lt_succ_self _) hsize.symm
  | layout layout =>
      refine h.within fun id hid => ?_
      obtain ⟨hquiet, hknown, hwindows, hcalled⟩ := h.request (.setLayout id layout) (by simp) rfl
        (quiet_setLayout hid layout)
      exact ⟨Logged.quiet_bind_iff.mpr ⟨rfl, hquiet⟩, hknown, hwindows, hcalled⟩
  | button label =>
      exact h.within fun id hid =>
        h.request (.addButton id label) (by simp) rfl (quiet_addSlot hid _)
  | label text =>
      exact h.within fun id hid => h.request (.addLabel id text) (by simp) rfl (quiet_addSlot hid _)
  | textField columns =>
      exact h.within fun id hid =>
        h.request (.addTextField id columns) (by simp) rfl (quiet_addSlot hid _)
  | openPanel =>
      refine h.within fun id hid => ?_
      have hafter := h.after (.beginPanel id)
      have hsize := scene.state.size_after_beginPanel id
      have hwindows : (scene.state.after (.beginPanel id)).windows = scene.state.windows :=
        windows_after (by simp)
      refine ⟨by simpa using quiet_beginPanel hid,
        ⟨List.forall_mem_cons.mpr ⟨?_, hafter.containers⟩, hafter.group⟩, hwindows,
        [.beginPanel id], rfl⟩
      exact Nat.lt_of_lt_of_eq (Nat.lt_succ_self _) hsize.symm
  | closePanel =>
      exact ⟨rfl, ⟨fun id hid => h.containers id (List.mem_of_mem_tail hid), h.group⟩, rfl, [], rfl⟩
  | openGroup =>
      have hafter := h.after .beginRadioGroup
      have hsize := scene.state.groups_size_after_beginRadioGroup
      refine ⟨rfl, ⟨hafter.containers, ?_⟩, rfl, [.beginRadioGroup], rfl⟩
      rintro id ⟨⟩
      exact Nat.lt_of_lt_of_eq (Nat.lt_succ_self _) hsize.symm
  | radio label =>
      refine h.within fun id hid => ?_
      cases hgroup : scene.group with
      | none => exact ⟨rfl, h, rfl, [], rfl⟩
      | some group =>
          have hmade := h.group group hgroup
          have hcall := h.request (.addRadioButton group id label) (by simp) rfl
            (quiet_addRadioButton hmade hid label)
          rwa [hgroup] at hcall
  | closeGroup => exact ⟨rfl, ⟨h.containers, fun _ hid => by cases hid⟩, rfl, [], rfl⟩
  | showWindow => exact absurd rfl hshow

theorem Known.performAll {events : List Event} (h : scene.Known) (hshow : .showWindow ∉ events) :
    Tidy scene.state (scene.performAll renderer events) := by
  induction events generalizing scene with
  | nil => exact ⟨rfl, h, rfl, [], rfl⟩
  | cons event events ih =>
      rw [List.mem_cons, not_or] at hshow
      obtain ⟨hquiet, hknown, hwindows, requests, hcalled⟩ := h.perform (Ne.symm hshow.1)
      obtain ⟨hquiets, hrest, hsame, more, hcalls⟩ := ih hknown hshow.2
      refine ⟨Logged.quiet_bind_iff.mpr ⟨hquiet, hquiets⟩, hrest, hsame.trans hwindows,
        requests ++ more, ?_⟩
      rw [afterAll_append, ← hcalled]
      exact hcalls

-- Showing is a single call too, and warns only if it shows nothing.
theorem performAll_showWindow (scene : Scene Assembler ContainerId GroupId) :
    (∃ requests, (scene.performAll renderer [.showWindow]).value.state =
      scene.state.afterAll requests) ∧
    ((scene.performAll renderer [.showWindow]).value.state.windows ≠ scene.state.windows →
      (scene.performAll renderer [.showWindow]).Quiet) := by
  obtain ⟨a, containers, group⟩ := scene
  cases containers with
  | nil => exact ⟨⟨[], rfl⟩, fun _ => rfl⟩
  | cons id outer =>
      refine ⟨⟨[.showWindow id], rfl⟩, fun h => ?_⟩
      have hshown : (a.showWindow id).Quiet := quiet_showWindow h
      simpa [Scene.performAll, Scene.perform, Scene.within, renderer] using hshown

end Scene

namespace Assembler

variable {a : Assembler}

-- What a document does to a builder that may hold anything already.
structure Parsed (a : Assembler) (options : Options) (source : String) : Prop where
  quiet : (parse renderer options source a).Quiet
  called : ∃ requests, (parse renderer options source a).value.state = a.afterAll requests
  outcome :
    match (parse renderer options source a).value with
    | ⟨.ok (), after⟩ => ∃ w, (parseWindow options source).value = .ok w ∧
        after.windows = a.windows.push w
    | ⟨.error fault, after⟩ => (parseWindow options source).value = .error (.unparsed none fault) ∧
        after.windows = a.windows ∧ (options.commit = .atomic → after = a)

variable {options : Options} {source : String}

theorem Parsed.of_error {fault : Fault}
    (hresult : (Reading.ofText options.maxNesting source).result = .error fault) :
    Parsed a options source := by
  obtain ⟨before, hbefore, hevents⟩ := Reading.exists_events options.maxNesting source
  simp only [hresult, List.append_nil] at hevents
  have htidy := (Scene.Known.start a).performAll hbefore
  rw [← hevents] at htidy
  have hquiet := quiet_parse renderer htidy.quiet
  have hwindow := parseWindow_of_error hresult
  obtain ⟨-, hstate⟩ | ⟨hstreaming, hstate⟩ := state_parse_of_error renderer a hresult
  · refine ⟨hquiet, ⟨[], hstate⟩, ?_⟩
    rw [value_parse, hresult]
    exact ⟨hwindow, by rw [hstate], fun _ => hstate⟩
  · refine ⟨hquiet, by rw [hstate]; exact htidy.called, ?_⟩
    rw [value_parse, hresult]
    refine ⟨hwindow, by rw [hstate]; exact htidy.windows_eq, fun hatomic => ?_⟩
    rw [hatomic] at hstreaming
    cases hstreaming

theorem Parsed.of_ok (hpending : a.PendingNumbered)
    (hresult : (Reading.ofText options.maxNesting source).result = .ok ()) :
    Parsed a options source := by
  obtain ⟨-, d, -, -, -, hwindow⟩ := exists_parseWindow hresult
  obtain ⟨-, hdrawn, hformed⟩ := reading_of_parseWindow hwindow
  obtain ⟨before, hbefore, hevents⟩ := Reading.exists_events options.maxNesting source
  simp only [hresult] at hevents
  have hstate := state_parse_of_ok renderer a hresult
  have hshown : (parse renderer options source a).value.state.windows =
      a.windows.push d.window := by
    rw [hstate, hdrawn, state_performAll_window hpending _ hformed.children.groupsFilled]
  rw [hevents, Scene.performAll_append] at hstate
  obtain ⟨hquiet, -, hwindows, requests, hcalled⟩ := (Scene.Known.start a).performAll hbefore
  obtain ⟨⟨more, hshow⟩, hquiets⟩ :=
    (Scene.performAll renderer (.start a) before).value.performAll_showWindow
  refine ⟨quiet_parse renderer ?_, ⟨requests ++ more, ?_⟩, ?_⟩
  · rw [hevents, Scene.quiet_performAll_append_iff]
    refine ⟨hquiet, hquiets ?_⟩
    have hgrown : a.windows.push d.window ≠ a.windows := fun hsame => by
      simpa using congrArg Array.size hsame
    rwa [← hstate, hshown, hwindows]
  · rw [hstate, hshow, hcalled, afterAll_append]
    rfl
  · rw [value_parse, hresult]
    exact ⟨d.window, hwindow, hshown⟩

-- What is done with a builder: a single call with any handles, or a whole document.
inductive Use where
  | call (request : Request ContainerId GroupId)
  | document (options : Options) (source : String)

def use (a : Assembler) : Use → Assembler
  | .call request => a.after request
  | .document options source => (parse renderer options source a).value.state

def used (uses : List Use) : Assembler := uses.foldl use empty

theorem parsed (hpending : a.PendingNumbered) (options : Options) (source : String) :
    Parsed a options source := by
  cases hresult : (Reading.ofText options.maxNesting source).result with
  | error fault => exact .of_error hresult
  | ok => exact .of_ok hpending hresult

-- Drawing documents is making calls.
theorem exists_run_of_used (uses : List Use) : ∃ requests, used uses = run requests := by
  induction uses using List.reverseRecOn with
  | nil => exact ⟨[], rfl⟩
  | append_singleton uses last ih =>
      obtain ⟨requests, hrun⟩ := ih
      rw [used, List.foldl_append, ← used, hrun]
      cases last with
      | call request =>
          exact ⟨requests ++ [request], (afterAll_append empty requests [request]).symm⟩
      | document options source =>
          obtain ⟨more, hmore⟩ := (parsed (pendingNumbered_run requests) options source).called
          exact ⟨requests ++ more, hmore.trans (afterAll_append empty requests more).symm⟩

-- Whatever a builder was used for, a document adds to its windows the one that it describes, or
-- nothing if it is faulty, just as on a new builder. There is never anything to warn of.
theorem parse_used (uses : List Use) (options : Options) (source : String) :
    (match (parse renderer options source (used uses)).value with
      | ⟨.ok (), after⟩ => ∃ w, (parseWindow options source).value = .ok w ∧
          after.windows = (used uses).windows.push w
      | ⟨.error fault, after⟩ =>
          (parseWindow options source).value = .error (.unparsed none fault) ∧
            after.windows = (used uses).windows ∧ (options.commit = .atomic → after = used uses)) ∧
      (parseWindow options source).value ≠ .error .windowless ∧
      (parse renderer options source (used uses)).Quiet ∧ (parseWindow options source).Quiet := by
  obtain ⟨requests, hrun⟩ := exists_run_of_used uses
  obtain ⟨hquiet, -, houtcome⟩ := parsed (pendingNumbered_run requests) options source
  have hnew : Parsed empty options source := parsed (pendingNumbered_run []) options source
  rw [hrun]
  refine ⟨houtcome, ?_, hquiet, ?_⟩
  · intro hwindowless
    rw [hwindowless] at houtcome
    split at houtcome
    · obtain ⟨w, hw, -⟩ := houtcome
      cases hw
    · cases houtcome.1
  · simpa [parseWindow] using hnew.quiet

end Assembler

end WindowDoc
