/-
This file proves that the clients mirror the tabs of the server once nothing is on its way, in every
run of careful events. It ends with runs of other events, after which a client shows something else.
-/

import Dinotty.Foundation.Runs
import Dinotty.Sync.Mirror

namespace Dinotty.Sync

open Session Mirrors List Option

section Work

variable {server : Server} {id : Nat}

/-! ### Telling -/

theorem siteOf_deliver (tab : TabId) (told : Audience × SyncMsg) (sender reader : Nat)
    (connection : Connection) :
    siteOf tab (connection.deliver told sender reader) =
      (toldOf tab told).elim (siteOf tab connection) fun told =>
        (siteOf tab connection).deliver told sender reader := by
  unfold Connection.deliver toldOf
  cases note : noteOf tab told.2 with
  | none =>
    rw [map_none, elim_none]
    split
    · split
      · simp [siteOf, note]
      · rfl
    · split
      · simp [siteOf, note]
      · rfl
  | some found =>
    rw [map_some, elim_some]
    have phase : (siteOf tab connection).phase = connection.phase := rfl
    unfold Site.deliver
    rw [phase]
    by_cases reply : told.1 = .sender
    · rw [if_pos reply, if_pos reply]
      by_cases own : reader = sender ∧ connection.phase = .ready
      · rw [if_pos own, if_pos own]
        simp [siteOf, note]
      · rw [if_neg own, if_neg own]
    · rw [if_neg reply, if_neg reply]
      by_cases reached : told.1.reaches sender reader = true ∧ connection.phase ≠ .gone
      · rw [if_pos reached, if_pos reached]
        simp [siteOf, note]
      · rw [if_neg reached, if_neg reached]

variable {connection : Connection}

theorem sites_tell (present : server.connections.lookup id = some connection)
    (told : Audience × SyncMsg) (rest : List (Audience × SyncMsg)) (tab : TabId) (reader : Nat) :
    ((server.tell id told rest).cellOf tab).sites reader =
      { (toldOf tab told).elim ((server.cellOf tab).sites reader) fun told =>
          ((server.cellOf tab).sites reader).deliver told id reader with
        telling := if reader = id then rest.filterMap (toldOf tab)
          else ((server.cellOf tab).sites reader).telling } := by
  have lookup : (server.tell id told rest).connections.lookup reader =
      (server.connections.lookup reader).map fun connection =>
        { connection.deliver told id reader with
          telling := if reader = id then rest else connection.telling } :=
    KeyMap.lookup_mapValues _ _ _
  cases here : server.connections.lookup reader with
  | none =>
    rw [here, map_none] at lookup
    have ne : reader ≠ id := by
      rintro rfl
      cases here.symm.trans present
    rw [sites_of_unused lookup, sites_of_unused here, if_neg ne]
    cases toldOf tab told with
    | none => rfl
    | some pair =>
      rw [elim_some, Cell.deliver_unused]
  | some other =>
    rw [here, map_some] at lookup
    rw [sites_of_lookup lookup, sites_of_lookup here, ← siteOf_deliver]
    by_cases own : reader = id
    · simp only [siteOf, if_pos own]
    · simp only [siteOf, if_neg own]

theorem Sound.tell (sound : Sound server) (present : server.connections.lookup id = some connection)
    {told : Audience × SyncMsg} {rest : List (Audience × SyncMsg)}
    (announced : connection.telling = told :: rest) :
    Sound (server.tell id told rest) := by
  constructor
  · intro tab
    have sites := sites_tell present told rest tab
    have site := sites_of_lookup present tab
    cases noted : toldOf tab told with
    | none =>
      have same : (server.tell id told rest).cellOf tab = server.cellOf tab := by
        refine Cell.ext rfl fun reader => ?_
        rw [sites, noted, elim_none]
        by_cases own : reader = id
        · rw [own, site]
          simp [siteOf, announced, noted]
        · rw [if_neg own]
      rw [same]
      exact sound.good tab
    | some pair =>
      have telling : ((server.cellOf tab).sites id).telling =
          pair :: rest.filterMap (toldOf tab) := by
        rw [site]
        simp [siteOf, announced, noted]
      have same : (server.tell id told rest).cellOf tab =
          (server.cellOf tab).tell id pair (rest.filterMap (toldOf tab)) := by
        refine Cell.ext rfl fun reader => ?_
        rw [sites, noted, elim_some]
        rfl
      obtain ⟨teller, good⟩ := sound.good tab
      have own : id = teller := by
        by_contra ne
        cases (good.alone id ne).symm.trans telling
      rw [same]
      exact ⟨id, (own ▸ good).tell telling⟩
  · intro reader found lookup
    rw [Server.tell] at lookup
    simp only [KeyMap.lookup_mapValues] at lookup
    obtain ⟨before, here, rfl⟩ := map_eq_some_iff.mp lookup
    have distinct := sound.distinct reader before here
    unfold Connection.deliver
    split <;> split <;> exact distinct

/-! ### Closing a pane -/

open SessionManager in
/-- What closing a pane does to the tabs: each tab that it empties and each one that it updates is
told. -/
structure ClosesTabs (before : SessionManager) (pane : PaneId) (closed : SessionManager)
    (changes : LayoutChanges) : Prop where
  lookup : ∀ tab, closed.tabLayouts.lookup tab =
    (before.tabLayouts.lookup tab).bind (purgedValue pane)
  emptied : ∀ tab value, before.tabLayouts.lookup tab = some value →
    purgeEffect pane value = .emptied → tab ∈ changes.closedTabs
  updated : ∀ tab value layout activePaneId, before.tabLayouts.lookup tab = some value →
    purgeEffect pane value = .updated layout activePaneId →
    ∃ update ∈ changes.updates, update.tabId = tab
  truthful : ∀ update ∈ changes.updates, ∃ value activePaneId,
    before.tabLayouts.lookup update.tabId = some value ∧
      purgeEffect pane value = .updated update.layout activePaneId

variable (mgr : SessionManager)

theorem closesTabs_collectLayoutCloseLocked (pane : PaneId) (fallbackTab : Bool) :
    ClosesTabs mgr pane (mgr.collectLayoutCloseLocked pane fallbackTab).1
      (mgr.collectLayoutCloseLocked pane fallbackTab).2 := by
  have inEntries : ∀ entry, entry ∈ (mgr.tabLayouts.entries.filter fun entry =>
      !(false && decide (entry.1 = pane))) ↔
      mgr.tabLayouts.lookup entry.1 = some entry.2 := by
    intro entry
    rw [KeyMap.lookup_eq_some_iff, mem_filter]
    simp
  have updates : ∀ update, update ∈ (mgr.collectLayoutCloseLocked pane fallbackTab).2.updates ↔
      ∃ value activePaneId, mgr.tabLayouts.lookup update.tabId = some value ∧
        SessionManager.purgeEffect pane value = .updated update.layout activePaneId ∧
        update.activePaneId = activePaneId.getD "" := by
    intro update
    have listed : (mgr.collectLayoutCloseLocked pane fallbackTab).2.updates =
        (mgr.purgePaneFromLayoutsLocked pane false).2.updates := by
      unfold SessionManager.collectLayoutCloseLocked SessionManager.onPtyExitedLocked
      simp only
      split <;> rfl
    rw [listed, SessionManager.purgePaneFromLayoutsLocked]
    simp only [List.mem_map]
    constructor
    · rintro ⟨⟨tab, layout, activePaneId⟩, mem, rfl⟩
      obtain ⟨value, inList, effect⟩ := SessionManager.mem_updatedTabs.mp mem
      exact ⟨value, activePaneId, (inEntries _).mp inList, effect, rfl⟩
    · rintro ⟨value, activePaneId, present, effect, active⟩
      refine ⟨(update.tabId, update.layout, activePaneId),
        SessionManager.mem_updatedTabs.mpr ⟨value, (inEntries ⟨_, _⟩).mpr present, effect⟩, ?_⟩
      simp only [← active]
  constructor
  · intro tab
    have tabs : (mgr.collectLayoutCloseLocked pane fallbackTab).1.tabLayouts =
        (mgr.purgePaneFromLayoutsLocked pane false).1.tabLayouts := rfl
    rw [tabs, SessionManager.lookup_purgePaneFromLayoutsLocked]
    rfl
  · intro tab value present effect
    have mem : tab ∈ (mgr.purgePaneFromLayoutsLocked pane false).2.closedTabs :=
      SessionManager.mem_emptiedTabs.mpr ⟨value, (inEntries ⟨_, _⟩).mpr present, effect⟩
    unfold SessionManager.collectLayoutCloseLocked SessionManager.onPtyExitedLocked
    simp only
    split
    next nothing =>
      rw [isEmpty_iff.mp nothing.2.1] at mem
      cases mem
    · exact mem
  · intro tab value layout activePaneId present effect
    exact ⟨⟨tab, layout, activePaneId.getD ""⟩,
      (updates _).mpr ⟨value, activePaneId, present, effect, rfl⟩, rfl⟩
  · intro update mem
    obtain ⟨value, activePaneId, present, effect, -⟩ := (updates update).mp mem
    exact ⟨value, activePaneId, present, effect⟩

theorem closesTabs_claimPaneClose (pane : PaneId) :
    ClosesTabs mgr pane (mgr.claimPaneClose pane).1
      (changesOf (mgr.claimPaneClose pane).2) := by
  unfold SessionManager.claimPaneClose SessionManager.removeSessionLocked
  cases mgr.sessions.lookup pane with
  | some current =>
    have closes := closesTabs_collectLayoutCloseLocked { mgr with
      sessions := mgr.sessions.erase pane
      unownedSince := mgr.unownedSince.erase pane } pane true
    exact ⟨closes.lookup, closes.emptied, closes.updated, closes.truthful⟩
  | none =>
    have closes := closesTabs_collectLayoutCloseLocked mgr pane false
    simp only
    split
    next nothing =>
      have changes : changesOf none = (mgr.collectLayoutCloseLocked pane false).2 := by
        obtain ⟨closedTabs, updates⟩ := nothing
        generalize (mgr.collectLayoutCloseLocked pane false).2 = changes at closedTabs updates
        obtain ⟨_, _⟩ := changes
        obtain rfl := isEmpty_iff.mp closedTabs
        obtain rfl := isEmpty_iff.mp updates
        rfl
      rw [changes]
      exact closes
    · exact closes

/-! ### Working -/

theorem isSome_sourceOf (tab : TabId) :
    (sourceOf mgr tab).isSome = (mgr.tabLayouts.lookup tab).isSome :=
  isSome_map

theorem sourceOf_updateLayoutLocked (tab : TabId) (layout : Layout)
    (activePaneId : PaneId) (other : TabId) :
    sourceOf (mgr.updateLayoutLocked tab
        { layout := some layout, activePaneId := some activePaneId } (some activePaneId)) other =
      if other = tab then some (some (rooted layout)) else sourceOf mgr other := by
  have lookup : (mgr.updateLayoutLocked tab
      { layout := some layout, activePaneId := some activePaneId }
      (some activePaneId)).tabLayouts.lookup other =
      if other = tab then some { layout := some layout, activePaneId := some activePaneId }
      else mgr.tabLayouts.lookup other :=
    SessionManager.insertTabLocked_lookup _ _ _ _
  rw [sourceOf, sourceOf, lookup]
  split <;> rfl

theorem toldOf_everyone (tab : TabId) (messages : List SyncMsg) :
    (messages.map fun message => ((.everyone, message) : Audience × SyncMsg)).filterMap
        (toldOf tab) =
      (messages.filterMap (noteOf tab)).map fun note => (.everyone, note) := by
  induction messages with
  | nil => rfl
  | cons message rest ih =>
    rw [map_cons, filterMap_cons, filterMap_cons, ih, toldOf]
    cases noteOf tab message <;> rfl

/-- The messages about the changes of some layouts. -/
def messagesOf (changes : LayoutChanges) : List SyncMsg :=
  changes.closedTabs.map .tabClosed ++
    changes.updates.map fun update =>
      .layoutUpdated update.tabId update.layout update.activePaneId

theorem broadcastLayoutChanges_eq (changes : LayoutChanges) : broadcastLayoutChanges changes =
      (messagesOf changes).map fun message => (.everyone, message) := by
  rw [broadcastLayoutChanges, messagesOf, map_append, List.map_map, List.map_map]
  rfl

variable {tab : TabId}

section

variable (sound : Sound server) (present : server.connections.lookup id = some connection)
include sound present

theorem Sound.unchangedSite {next : Connection} {manager : SessionManager}
    (source : sourceOf manager tab = sourceOf server.manager tab)
    (site : siteOf tab next = siteOf tab connection) :
    (Cell.set { server.cellOf tab with source := sourceOf manager tab } id
      (siteOf tab next)).Good := by
  rw [source, site]
  exact (Cell.set_eq_self (sites_of_lookup present tab)).symm ▸ sound.good tab

theorem Sound.closePane (working : connection.phase ≠ .registered)
    (silent : connection.telling = []) {pane : PaneId}
    (careful : PerformsCarefully server (.closePane pane)) (todo : List Task) :
    Sound ⟨(perform server.manager (.closePane pane)).1,
      server.connections.insert id { connection with
        todo, telling := (perform server.manager (.closePane pane)).2 }⟩ := by
  have closes := closesTabs_claimPaneClose server.manager pane
  rw [perform]
  simp only
  obtain ⟨closedCarefully, updatedCarefully⟩ := careful
  generalize server.manager.claimPaneClose pane = claimed at *
  obtain ⟨closed, plan⟩ := claimed
  simp only at closes closedCarefully updatedCarefully ⊢
  generalize changesOf plan = changes at *
  refine sound.insert (sound.distinct id connection present) fun tab => ?_
  have site := sites_of_lookup present tab
  have telling : siteOf tab { connection with
      todo, telling := broadcastLayoutChanges changes } =
      { siteOf tab connection with
        telling := ((messagesOf changes).filterMap (noteOf tab)).map
          fun note => (.everyone, note) } := by
    rw [siteOf, siteOf, ← toldOf_everyone, ← broadcastLayoutChanges_eq]
  by_cases about : (messagesOf changes).filterMap (noteOf tab) = []
  · -- Nothing is told about this tab, so the pane was not in it.
    have untouched : ∀ value, server.manager.tabLayouts.lookup tab = some value →
        SessionManager.purgedValue pane value = some value := by
      intro value found
      unfold SessionManager.purgedValue
      cases effect : SessionManager.purgeEffect pane value with
      | untouched => rfl
      | emptied =>
        have mem : SyncMsg.tabClosed tab ∈ messagesOf changes :=
          mem_append_left _ (mem_map_of_mem (closes.emptied tab value found effect))
        have none := filterMap_eq_nil_iff.mp about _ mem
        rw [noteOf, if_pos rfl] at none
        cases none
      | updated layout activePaneId =>
        obtain ⟨update, inUpdates, named⟩ :=
          closes.updated tab value layout activePaneId found effect
        have mem : SyncMsg.layoutUpdated update.tabId update.layout update.activePaneId ∈
            messagesOf changes :=
          mem_append_right _ (mem_map.mpr ⟨update, inUpdates, rfl⟩)
        have none := filterMap_eq_nil_iff.mp about _ mem
        rw [noteOf, if_pos named] at none
        cases none
    refine sound.unchangedSite present ?_ ?_
    · rw [sourceOf, sourceOf, closes.lookup]
      cases found : server.manager.tabLayouts.lookup tab with
      | none => rfl
      | some value => rw [bind_some, untouched value found]
    · rw [telling, about, siteOf, silent]
      rfl
  · have careful : Silent server tab ∧ Unedited server tab := by
      obtain ⟨note, inNotes⟩ := exists_mem_of_ne_nil _ about
      obtain ⟨message, mem, noted⟩ := mem_filterMap.mp inNotes
      rcases mem_append.mp mem with isClosed | isUpdated
      · obtain ⟨other, inClosed, rfl⟩ := mem_map.mp isClosed
        obtain ⟨quiet, unedited, -⟩ := closedCarefully other inClosed
        rw [noteOf] at noted
        split at noted
        next same =>
          exact same ▸ ⟨quiet, unedited⟩
        · cases noted
      · obtain ⟨update, inUpdates, rfl⟩ := mem_map.mp isUpdated
        rw [noteOf] at noted
        split at noted
        next same =>
          exact same ▸ updatedCarefully update inUpdates
        · cases noted
    have announces : ∀ note ∈ (messagesOf changes).filterMap (noteOf tab),
        note.Announces (sourceOf closed tab) := by
      intro note inNotes
      obtain ⟨message, mem, noted⟩ := mem_filterMap.mp inNotes
      rcases mem_append.mp mem with isClosed | isUpdated
      · obtain ⟨other, inClosed, rfl⟩ := mem_map.mp isClosed
        obtain ⟨-, -, gone⟩ := closedCarefully other inClosed
        rw [noteOf] at noted
        split at noted
        next same =>
          cases noted
          rw [Note.Announces, sourceOf, ← same, isNone_iff_eq_none.mp gone]
          rfl
        · cases noted
      · obtain ⟨update, inUpdates, rfl⟩ := mem_map.mp isUpdated
        obtain ⟨value, activePaneId, found, effect⟩ := closes.truthful update inUpdates
        rw [noteOf] at noted
        split at noted
        next same =>
          cases noted
          rw [Note.Announces, sourceOf, ← same, closes.lookup, found, bind_some,
            SessionManager.purgedValue, effect]
          rfl
        · cases noted
    have present : (sourceOf closed tab).isSome = true →
        (server.cellOf tab).source.isSome = true := by
      intro after
      rw [isSome_sourceOf, closes.lookup] at after
      refine (isSome_sourceOf server.manager tab).trans ?_
      cases found : server.manager.tabLayouts.lookup tab with
      | none =>
        rw [found] at after
        cases after
      | some value => rfl
    have atSite : ((server.cellOf tab).sites id).phase ≠ .registered := by
      rw [site]
      exact working
    have announced := (sound.good tab).announce (calm_of_silent careful.1)
      (unedited_cellOf careful.2) atSite announces present fun none => absurd none about
    rw [Cell.write, site] at announced
    rw [telling]
    exact announced

theorem Sound.removeTab (silent : connection.telling = [])
    (careful : PerformsCarefully server (.removeTab tab)) (todo : List Task) :
    Sound ⟨(perform server.manager (.removeTab tab)).1,
      server.connections.insert id { connection with
        todo, telling := (perform server.manager (.removeTab tab)).2 }⟩ := by
  have absent : server.manager.tabLayouts.lookup tab = none := isNone_iff_eq_none.mp careful
  refine sound.insert (sound.distinct id connection present) fun other =>
    sound.unchangedSite present ?_ ?_
  · have lookup : (perform server.manager (.removeTab tab)).1.tabLayouts.lookup other =
        if other = tab then none else server.manager.tabLayouts.lookup other :=
      SessionManager.removeTabLocked_lookup _ _ _
    rw [sourceOf, sourceOf, lookup]
    split
    next same =>
      rw [same, absent]
    · rfl
  · have nothing : (perform server.manager (.removeTab tab)).2 = [] := by
      simp [perform, SessionManager.removeTabLocked, absent]
    rw [siteOf, siteOf, nothing, silent]

theorem Sound.createTab (working : connection.phase ≠ .registered)
    (silent : connection.telling = []) (uuid : TabId) {layout : Layout} {tabId : Option TabId}
    {paneId : Option PaneId} {inbox : List SyncClientMsg}
    (sent : connection.inbox = .createTab layout tabId paneId :: inbox)
    (careful : HandlesCarefully server connection uuid (.createTab layout tabId paneId)) :
    Sound ⟨(handle server.manager uuid (.createTab layout tabId paneId)).1,
      server.connections.insert id { connection with
        todo := (handle server.manager uuid (.createTab layout tabId paneId)).2.1
        telling := (handle server.manager uuid (.createTab layout tabId paneId)).2.2
        inbox }⟩ := by
  obtain ⟨absent, quiet, empty⟩ := careful
  rw [handle]
  simp only
  generalize tabId.getD uuid = tab at *
  generalize (paneId.or layout.firstLeafId).getD tab = leafId
  refine sound.insert (sound.distinct id connection present) fun other => ?_
  have source := sourceOf_updateLayoutLocked server.manager tab layout leafId other
  have site := sites_of_lookup present other
  have edits : connection.inbox.filterMap (editOf other) = inbox.filterMap (editOf other) := by
    rw [sent, filterMap_cons]
    rfl
  by_cases here : other = tab
  · subst here
    rw [if_pos rfl] at source
    have absentHere : (server.cellOf other).source = none := by
      have none := isNone_iff_eq_none.mp absent
      exact congrArg (Option.map fun value : TabValue => value.layout.map rooted) none
    have atSite : ((server.cellOf other).sites id).phase ≠ .registered := by
      rw [site]
      exact working
    have rx : ((server.cellOf other).sites id).rx = [] := by
      rw [site]
      exact notes_eq_nil empty
    have created := (sound.good other).create (calm_of_silent quiet) atSite absentHere rx
      (some (rooted layout))
    have next : siteOf other { connection with
        todo := []
        telling := [(.sender, .tabCreated other leafId (some layout)),
          (.others, .tabCreated other leafId (some layout))]
        inbox } =
        { siteOf other connection with
          telling := [(.sender, .created (some (rooted layout))),
            (.others, .created (some (rooted layout)))] } := by
      simp [siteOf, edits, toldOf, noteOf]
    rw [Cell.write, site] at created
    rw [source, next]
    exact created
  · rw [if_neg here] at source
    refine sound.unchangedSite present source ?_
    simp [siteOf, edits, silent, toldOf, noteOf, Ne.symm here]

theorem Sound.updateLayout (working : connection.phase ≠ .registered)
    (silent : connection.telling = []) (uuid : TabId) {layout : Layout} {activePaneId : PaneId}
    {inbox : List SyncClientMsg}
    (sent : connection.inbox = .updateLayout tab layout activePaneId :: inbox)
    (careful : HandlesCarefully server connection uuid (.updateLayout tab layout activePaneId)) :
    Sound ⟨(handle server.manager uuid (.updateLayout tab layout activePaneId)).1,
      server.connections.insert id { connection with
        todo := (handle server.manager uuid (.updateLayout tab layout activePaneId)).2.1
        telling := (handle server.manager uuid (.updateLayout tab layout activePaneId)).2.2
        inbox }⟩ := by
  rw [handle]
  refine sound.insert (sound.distinct id connection present) fun other => ?_
  have source := sourceOf_updateLayoutLocked server.manager tab layout activePaneId other
  have site := sites_of_lookup present other
  by_cases here : other = tab
  · subst here
    rw [if_pos rfl] at source
    have atSite : ((server.cellOf other).sites id).phase ≠ .registered := by
      rw [site]
      exact working
    have edits : ((server.cellOf other).sites id).edits =
        some (rooted layout) :: inbox.filterMap (editOf other) := by
      rw [site]
      simp [siteOf, sent, editOf]
    have handled := (sound.good other).handle (calm_of_silent careful) atSite edits
    have next : siteOf other { connection with
        todo := []
        telling := [(.others, .layoutUpdated other layout activePaneId)]
        inbox } =
        { siteOf other connection with
          edits := inbox.filterMap (editOf other)
          telling := [(.others, .updated (some (rooted layout)))] } := by
      simp [siteOf, toldOf, noteOf]
    rw [Cell.write, site] at handled
    rw [source, next]
    exact handled
  · rw [if_neg here] at source
    refine sound.unchangedSite present source ?_
    simp [siteOf, sent, silent, editOf, toldOf, noteOf, Ne.symm here]

end

theorem Sound.work (sound : Sound server) {uuid : TabId}
    (careful : ∀ connection ∈ server.connections.lookup id,
      WorksCarefully server uuid connection) : Sound (server.work id uuid) := by
  unfold Server.work
  cases present : server.connections.lookup id with
  | none => exact sound
  | some connection =>
    simp only
    split
    · exact sound
    next working =>
      have goesOn := (careful connection present).resolve_left working
      split
      next announced =>
        exact sound.tell present announced
      next task todo silent planned =>
        rw [silent, planned] at goesOn
        cases task with
        | closePane pane => exact sound.closePane present working silent goesOn todo
        | removeTab tab => exact sound.removeTab present silent goesOn todo
      next message inbox silent planned sent =>
        rw [silent, planned, sent] at goesOn
        -- A message that is only taken changes no tab.
        have taken : (∀ tab, editOf tab message = none) → ∀ todo, Sound { server with
            connections := server.connections.insert id
              { connection with todo, telling := [], inbox } } := by
          intro noEdit todo
          refine sound.insert (sound.distinct id connection present) fun tab =>
            sound.unchangedSite present rfl ?_
          simp [siteOf, silent, sent, noEdit]
        cases message with
        | createTab layout tabId paneId =>
          exact sound.createTab present working silent uuid sent goesOn
        | updateLayout tab layout activePaneId =>
          exact sound.updateLayout present working silent uuid sent goesOn
        | closeTab | closePane => exact taken (fun _ => rfl) _
      · exact sound

end Work

/-! ### Runs -/

variable {server : Server}

theorem Sound.after (sound : Sound server) {event : Event} (careful : Careful server event) :
    Sound (server.after event) := by
  cases event with
  | connect id client =>
    change Sound (if _ then _ else _)
    split
    · exact sound
    next unused =>
      exact sound.connect (not_isSome_iff_eq_none.mp unused) careful
  | list id => exact sound.list careful
  | leave id => exact sound.leave
  | discard id => exact sound.discard
  | forward id => exact sound.forward
  | hear id splitId => exact sound.hear careful
  | edit id tab layout activePaneId paneMru => exact sound.edit careful layout activePaneId paneMru
  | turn id tab activePaneId paneMru =>
    have keeps : ∀ shown : TerminalTab,
        ({ shown with activePaneId, paneMru } : TerminalTab).paneId = shown.paneId := fun _ => rfl
    refine sound.unnoticed (fun connection distinct => distinct.editTab keeps tab)
      fun other connection => ?_
    have view : (connection.client.editTab tab fun shown =>
        { shown with activePaneId, paneMru }).view other = connection.client.view other := by
      rw [Client.view_editTab keeps]
      refine map_congr fun shown _ => ?_
      split <;> rfl
    simp [siteOf, view]
  | expire id tab => exact sound.unnoticed (fun _ distinct => distinct) fun _ _ => rfl
  | createTab | closeTab | closePane => exact sound.send fun _ => rfl
  | work id uuid => exact sound.work careful
  | spawn pane sess =>
    have tabs : (server.manager.insertSession pane sess).1.tabLayouts =
        server.manager.tabLayouts := by
      unfold SessionManager.insertSession
      split
      · rfl
      · split <;> rfl
    refine ⟨fun tab => ?_, sound.distinct⟩
    have same : (server.after (.spawn pane sess)).cellOf tab = server.cellOf tab := by
      refine Cell.ext ?_ fun _ => rfl
      exact congrArg (fun tabs : KeyMap TabId TabValue =>
        (tabs.lookup tab).map fun value => value.layout.map rooted) tabs
    rw [same]
    exact sound.good tab

theorem sound_start (manager : SessionManager) : Sound { manager } := by
  refine ⟨fun tab => ⟨0, ?_⟩, fun id connection present => ?_⟩
  · have unused : ∀ id, (Server.cellOf { manager } tab).sites id = {} := fun _ => rfl
    constructor
    · exact fun _ _ => rfl
    · exact fun told mem => absurd mem not_mem_nil
    · exact fun told mem => absurd mem not_mem_nil
    · exact nofun
    · exact nofun
    · exact nofun
    · exact fun _ some => absurd rfl some
    · exact fun _ some => absurd rfl some
  · cases present

/-- Nothing is on its way, and nothing is being done: no client has still to be told the tabs. -/
def Quiet (server : Server) : Prop :=
  ∀ entry ∈ server.connections.entries, entry.2.phase ≠ .registered ∧ entry.2.out = [] ∧
    entry.2.rx = [] ∧ entry.2.inbox = [] ∧ entry.2.todo = [] ∧ entry.2.telling = []

instance (server : Server) : Decidable (Quiet server) :=
  inferInstanceAs (Decidable (∀ entry ∈ _, _))

/-- Each client that is connected shows the tabs of the server, in the form in which a client keeps
a layout. -/
def Mirrored (server : Server) : Prop :=
  ∀ id connection, server.connections.lookup id = some connection → connection.phase ≠ .gone →
    ∀ tab, connection.client.view tab = sourceOf server.manager tab

theorem Sound.mirrored (sound : Sound server) (quiet : Quiet server) : Mirrored server := by
  intro id connection present connected tab
  obtain ⟨listed, -⟩ := quiet _ (entry_of_lookup present)
  have ready : connection.phase = .ready := by
    cases phase : connection.phase with
    | registered => exact absurd phase listed
    | ready => rfl
    | gone => exact absurd phase connected
  have site := sites_of_lookup present tab
  have atSite : ((server.cellOf tab).sites id).phase = .ready := by
    rw [site]
    exact ready
  have nothing : (server.cellOf tab).Quiet := by
    refine ⟨?_, ?_, ?_⟩
    · exact site_cases (fun _ site => site.telling = []) tab (fun _ => rfl)
        fun entry mem => by simp [siteOf, (quiet entry mem).2.2.2.2.2]
    · exact site_cases (fun _ site => site.edits = []) tab (fun _ => rfl)
        fun entry mem => by simp [siteOf, (quiet entry mem).2.2.2.1]
    · exact site_cases (fun _ site => site.out = [] ∧ site.rx = []) tab
        (fun _ => ⟨rfl, rfl⟩) fun entry mem => by
          simp [siteOf, (quiet entry mem).2.1, (quiet entry mem).2.2.1]
  have shown := (sound.good tab).shown nothing atSite
  rw [site] at shown
  exact shown

/-- Each client that is connected shows the tabs of the server, and each with the very tree that
the server has. -/
def ShownAsIs (server : Server) : Prop :=
  ∀ id connection, server.connections.lookup id = some connection → connection.phase ≠ .gone →
    ∀ tab, (Client.findTab connection.client.tabs tab).map (fun shown =>
        some (skeleton shown.layout)) =
      (server.manager.tabLayouts.lookup tab).map fun value => value.layout.map skeleton

/-- The form in which a client keeps a layout depends on its tree only. -/
theorem rooted_congr {first second : Layout} (same : skeleton first = skeleton second) :
    rooted first = rooted second := by
  cases first with
  | leaf fields =>
    cases second with
    | leaf fields' =>
      rw [skeleton, skeleton] at same
      injection same with same
      have wrapped : ∀ fields, rooted (.leaf fields) =
          .split "" "horizontal" none [.leaf { paneId := fields.paneId }] [] := fun _ => rfl
      rw [wrapped, wrapped, congrArg Leaf.paneId same]
    | split | other => cases same
  | split =>
    cases second with
    | split => rw [rooted_split, rooted_split, same]
    | leaf | other => cases same
  | other type =>
    cases second with
    | other type' =>
      rw [skeleton, skeleton] at same
      injection same with same
      rw [same]
    | leaf | split => cases same

theorem ShownAsIs.mirrored (shown : ShownAsIs server) : Mirrored server := by
  intro id connection present connected tab
  have same := shown id connection present connected tab
  rw [Client.view, Client.viewOf, sourceOf]
  cases found : Client.findTab connection.client.tabs tab with
  | none =>
    rw [found, map_none] at same
    rw [map_eq_none_iff.mp same.symm]
    rfl
  | some kept =>
    rw [found, map_some] at same
    obtain ⟨value, stored, equal⟩ := map_eq_some_iff.mp same.symm
    obtain ⟨layout, atLayout, trees⟩ := map_eq_some_iff.mp equal
    rw [stored, map_some, map_some, atLayout, map_some, rooted_congr trees]

def pluginLeaf (pane : PaneId) : Layout := .leaf { paneId := pane, kind := some "plugin" }

def row (panes : List PaneId) : Layout := .split "s" "horizontal" none (panes.map pluginLeaf) []

def column (panes : List PaneId) : Layout := .split "s" "vertical" none (panes.map pluginLeaf) []

/-- A client hears what has been forwarded, or what is forwarded to it next. -/
def heard (id : Nat) : List Event := [.forward id, .hear id fun _ => "s"]

def worked (id count : Nat) : List Event := List.replicate count (.work id "u")

def joined (id : Nat) (client : Client) : List Event :=
  [.connect id client, .list id, .hear id fun _ => "s"]

/-- A tab is made for a client, which then shows it. -/
def made (id : Nat) (tab : TabId) (layout : Layout) : List Event :=
  .createTab id layout (some tab) none :: worked id 3 ++ [.hear id fun _ => "s"]

def edited (id : Nat) (tab : TabId) (layout : Layout) : Event :=
  .edit id tab layout (layout.firstLeafId.getD "") layout.collectLeafPaneIds

/-- Two clients show a tab that the first one has made. -/
def shared (layout : Layout) : List Event :=
  joined 1 {} ++ joined 2 {} ++ made 1 "t" layout ++ heard 2

def run (events : List Event) : Server := Runs.run Server.after {} events

def clientAfter (events : List Event) (id : Nat) : Client :=
  ((run events).connections.lookup id).elim {} Connection.client

/-- Two clients edit a tab in turn, close panes, leave and join again. -/
def inTurn : List Event :=
  shared (row ["p", "q"]) ++ [edited 1 "t" (row ["p", "q", "r"])] ++ worked 1 2 ++ heard 2 ++
    [.closePane 2 "q"] ++ worked 2 3 ++ heard 1 ++ heard 2 ++ [.leave 1] ++ joined 3 {} ++
    [edited 3 "t" (column ["r", "s", "p"])] ++ worked 3 2 ++ heard 2 ++ made 2 "v" (row ["x"]) ++
    heard 3 ++ [.closeTab 2 "v"] ++ worked 2 4 ++ heard 2 ++ heard 3

/-- A run after which a client shows something else of a tab than the server has. -/
structure Stray where
  events : List Event
  client : Nat
  tab : TabId

def strays : List Stray := [
  -- The two clients edit the tab at the same time.
  ⟨shared (row ["p", "q"]) ++ [edited 1 "t" (row ["p", "q", "r"]),
    edited 2 "t" (row ["p", "q", "s"])] ++ worked 1 2 ++ worked 2 2 ++ heard 1 ++ heard 2, 2, "t"⟩,
  -- The second of two changes is told first.
  ⟨shared (row ["p", "q", "r"]) ++ [.closePane 1 "p", .closePane 2 "q"] ++ worked 1 2 ++
    worked 2 3 ++ worked 1 1 ++ heard 1 ++ heard 1 ++ heard 2 ++ heard 2, 1, "t"⟩,
  -- A pane is closed while an edit of its tab is on its way.
  ⟨shared (row ["p", "q"]) ++ [edited 1 "t" (row ["p", "q", "r"]), .closePane 2 "p"] ++
    worked 2 3 ++ worked 1 2 ++ heard 1 ++ heard 2 ++ heard 2, 1, "t"⟩,
  -- An edit only turns the row into a column, and the other client ignores it.
  ⟨shared (row ["p", "q"]) ++ [edited 1 "t" (column ["p", "q"])] ++ worked 1 2 ++ heard 2, 2, "t"⟩,
  -- A tab is made under an identifier that is in use.
  ⟨shared (row ["p", "q"]) ++ made 2 "t" (row ["x"]) ++ heard 1, 1, "t"⟩,
  -- A tab is made with a leaf of another one.
  ⟨shared (row ["p", "q"]) ++ made 2 "v" (row ["p"]) ++ heard 1, 1, "v"⟩,
  -- An edit takes the only leaf of another tab.
  ⟨shared (row ["p"]) ++ made 1 "v" (row ["x"]) ++ heard 2 ++ [edited 1 "v" (row ["x", "p"])] ++
    worked 1 2 ++ heard 2, 2, "t"⟩,
  -- A client that joins again keeps the layout that it had.
  ⟨shared (row ["p", "q"]) ++ [.leave 2, edited 1 "t" (row ["p", "q", "r"])] ++ worked 1 2 ++
    joined 3 (clientAfter (shared (row ["p", "q"])) 2), 3, "t"⟩,
  -- And a recent tab that has been closed meanwhile.
  ⟨shared (row ["p", "q"]) ++ [.leave 1, .closeTab 2 "t"] ++ worked 2 6 ++ heard 2 ++ heard 2 ++
    joined 3 (clientAfter (shared (row ["p", "q"])) 1), 3, "t"⟩,
  -- A tab whose terminal has no session is pruned when the second client joins.
  ⟨joined 1 {} ++ made 1 "t" (.leaf { paneId := "p" }) ++ joined 2 {}, 1, "t"⟩,
  -- A tab without leaves is closed, and the client that closes it is not told.
  ⟨shared (row []) ++ [.closeTab 1 "t"] ++ worked 1 3 ++ heard 2, 1, "t"⟩,
  -- A session without a leaf is closed, and a tab has the name of its pane.
  ⟨shared (row ["p"]) ++ [.spawn "t" 0, .closePane 1 "t"] ++ worked 1 3 ++ heard 1 ++ heard 2,
    1, "t"⟩,
  -- A client answers the first of two updates, with the pane that the second one takes away.
  ⟨shared (row ["p", "q", "r"]) ++ [.turn 2 "t" "p" ["p", "r"], .closePane 1 "p",
    .closePane 1 "q"] ++ worked 1 6 ++ heard 1 ++ heard 1 ++ heard 2 ++ heard 2 ++ worked 2 2 ++
    heard 1, 2, "t"⟩]

/-- The client is connected and shows something else. -/
def Stray.Differs (stray : Stray) : Prop :=
  ∃ connection ∈ (run stray.events).connections.lookup stray.client, connection.phase ≠ .gone ∧
      connection.client.view stray.tab ≠ sourceOf (run stray.events).manager stray.tab

instance (stray : Stray) : Decidable stray.Differs :=
  inferInstanceAs (Decidable (∃ connection ∈ _, _))

end Dinotty.Sync
