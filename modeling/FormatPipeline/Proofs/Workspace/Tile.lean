import FormatPipeline.Proofs.Workspace.Settling
import FormatPipeline.Proofs.Workspace.Unseen

/-! The status tile: what it is to show, and that settings which take effect keep it up to date. -/

namespace FormatPipeline

open Settings (OrderKind Slot)

/-- What the tile shows after all that was made of it; there is none in the beginning. -/
def shownTile (drawn : List (Option StatusSnapshot)) : Option StatusSnapshot := drawn.getLast?.join

/-- The tile shows what was made of it last. -/
theorem shownTile_append (drawn told : List (Option StatusSnapshot)) :
    shownTile (drawn ++ told) = told.getLast?.getD (shownTile drawn) := by
  unfold shownTile
  rw [List.getLast?_append]
  cases told.getLast? <;> rfl

namespace Workspace

variable {ω : Type}

/-- What the tile is to show. -/
def tile (w : Workspace ω) : Option StatusSnapshot :=
  if w.coordination.statusBar then some w.snapshot else none

/-- Handles are only ever made for documents that are there. -/
structure IsSound (w : Workspace ω) : Prop where
  documents : w.documents.Sound
  active : ∀ handle, w.coordination.activeDocument = some handle → (w.document? handle).isSome

/-- Whether handles are only made for documents that are there does not depend on texts. -/
theorem IsSound.congr {w other : Workspace ω} (sound : w.IsSound)
    (active : other.coordination.activeDocument = w.coordination.activeDocument)
    (documents : other.documents.blank = w.documents.blank) : other.IsSound := by
  refine ⟨sound.documents.of_blank documents, fun handle named => ?_⟩
  exact (DocumentTable.isSome_get?_of_blank documents handle).trans (sound.active handle (active ▸ named))

/-- Another workspace differs at most in work in progress, in texts, and in what was said. -/
structure Alike (w other : Workspace ω) : Prop where
  settled : other.settled = w.settled
  coordination : other.coordination = w.coordination
  documents : other.documents.blank = w.documents.blank

/-- A workspace differs in nothing from itself. -/
theorem Alike.refl (w : Workspace ω) : w.Alike w := ⟨rfl, rfl, rfl⟩

/-- The active document is the same up to what is written in it. -/
theorem blank_activeDocument? (w : Workspace ω) :
    w.activeDocument?.map Document.blank =
      w.coordination.activeDocument.bind w.documents.blank.get? := by
  unfold activeDocument?
  cases w.coordination.activeDocument with
  | none => rfl
  | some handle => exact (DocumentTable.get?_blank w.documents handle).symm

/-- Whether a document is active does not depend on texts. -/
theorem isActive_congr {w other : Workspace ω}
    (active : other.activeDocument?.map Document.blank = w.activeDocument?.map Document.blank)
    (id : Nat) : other.isActive id = w.isActive id := by
  have same := congrArg (·.any (·.id == id)) active
  simp only [Option.any_map] at same
  exact same

/-- The tile is to show the same as long as switches, orders and the active document are the same. -/
theorem tile_congr {w other : Workspace ω}
    (bar : other.coordination.statusBar = w.coordination.statusBar)
    (tick : other.coordination.onSaveEnabled = w.coordination.onSaveEnabled)
    (orders : other.coordination.order = w.coordination.order)
    (active : other.activeDocument?.map Document.blank = w.activeDocument?.map Document.blank) :
    other.tile = w.tile := by
  -- Of the active document the tile shows its path, and whether the formatters apply to it.
  have inScope := congrArg (·.any (·.inScope)) active
  have path := congrArg (·.map (·.displayPath)) active
  simp only [Option.any_map, Option.map_map] at inScope path
  have shown : other.snapshot = w.snapshot := by
    unfold snapshot
    congr 1
    · exact congrFun orders .format
    · exact congrFun orders .save
  unfold tile
  rw [bar, shown]

namespace Alike

variable {w other : Workspace ω}

/-- A document is the same up to what is written in it. -/
theorem document? (alike : w.Alike other) (handle : Handle) :
    (other.document? handle).map Document.blank = (w.document? handle).map Document.blank := by
  have same := congrArg (DocumentTable.get? · handle) alike.documents
  simp only [DocumentTable.get?_blank] at same
  exact same

/-- A document has the same number, and the formatters apply to it or not. -/
theorem document?_of_some (alike : w.Alike other) {handle : Handle} {document : Document}
    (present : w.document? handle = some document) :
    ∃ written, other.document? handle = some written ∧ written.id = document.id ∧
      written.inScope = document.inScope := by
  obtain ⟨written, there, differs⟩ := DocumentTable.get?_of_blank alike.documents present
  obtain ⟨named, -, -, inScope⟩ := Document.blank_eq_iff.mp differs
  exact ⟨written, there, named, inScope⟩

/-- A document that is not there is not there in all that is alike. -/
theorem document?_of_none (alike : w.Alike other) {handle : Handle}
    (absent : w.document? handle = none) : other.document? handle = none := by
  have same := alike.document? handle
  rw [absent, Option.map_none, Option.map_eq_none_iff] at same
  exact same

/-- The same document is active in the table. -/
theorem active? (alike : w.Alike other) : other.documents.active? = w.documents.active? := by
  have same : other.documents.blank.active? = w.documents.blank.active? := by rw [alike.documents]
  exact same

/-- The active document is the same up to what is written in it. -/
theorem activeDocument? (alike : w.Alike other) :
    other.activeDocument?.map Document.blank = w.activeDocument?.map Document.blank := by
  rw [blank_activeDocument?, blank_activeDocument?, alike.coordination, alike.documents]

/-- The tile is to show the same. -/
theorem tile (alike : w.Alike other) : other.tile = w.tile := by
  have coordination := alike.coordination
  exact tile_congr (by rw [coordination]) (by rw [coordination]) (by rw [coordination])
    alike.activeDocument?

end Alike

/-! ## Drawing again -/

/-- A function does the same to all that is like a workspace, and it keeps the tile up to date. -/
structure Redraws (f : Workspace ω → Workspace ω) (w : Workspace ω)
    (told : List (Option StatusSnapshot)) : Prop where
  alike : ∀ other, w.Alike other → (f w).Alike (f other)
  statuses : ∀ other, w.Alike other → other.outlet.writesLeft = none →
    (f other).outlet.writesLeft = none ∧ (f other).outlet.statuses = other.outlet.statuses ++ told
  sound : w.IsSound → (f w).IsSound
  tile : w.IsSound → (f w).tile = told.getLast?.getD w.tile

namespace Redraws

variable {f g : Workspace ω → Workspace ω} {w : Workspace ω} {told later : List (Option StatusSnapshot)}

/-- What is made of the tile by one function after another adds up. -/
theorem trans (first : Redraws f w told) (second : Redraws g (f w) later) :
    Redraws (fun w => g (f w)) w (told ++ later) where
  -- Each field of the second holds where the first has led.
  alike other same := second.alike _ (first.alike other same)
  statuses other same lasting := by
    obtain ⟨lasts, before⟩ := first.statuses other same lasting
    obtain ⟨still, after⟩ := second.statuses _ (first.alike other same) lasts
    exact ⟨still, by rw [after, before, List.append_assoc]⟩
  sound sound := second.sound (first.sound sound)
  tile sound := by
    -- The last thing that was told is that of the second, unless it told nothing.
    rw [second.tile (first.sound sound), first.tile sound, List.getLast?_append]
    cases later.getLast? <;> rfl

/-- A function that does the same can take the place of another one. -/
theorem congr (redraws : Redraws f w told) (same : ∀ other, w.Alike other → g other = f other) :
    -- Workspaces that are alike are led to the same place.
    Redraws g w told where
  alike other alike := by
    rw [same other alike, same w (.refl w)]
    exact redraws.alike other alike
  statuses other alike lasting := by
    rw [same other alike]
    exact redraws.statuses other alike lasting
  sound := by
    rw [same w (.refl w)]
    exact redraws.sound
  tile := by
    rw [same w (.refl w)]
    exact redraws.tile

/-- What is unseen makes nothing of the tile. -/
theorem of_unseen (unseen : ∀ w : Workspace ω, w.Unseen (f w))
    (settled : ∀ other, w.Alike other → (f other).settled = (f w).settled)
    -- What is unseen keeps the coordination and the documents, of which the tile is made.
    (lasting : ∀ w : Workspace ω, w.outlet.writesLeft = none → (f w).outlet.writesLeft = none) :
    Redraws f w [] where
  alike other same :=
    ⟨settled other same,
      (unseen other).coordination.trans (same.coordination.trans (unseen w).coordination.symm),
      (unseen other).documents.trans (same.documents.trans (unseen w).documents.symm)⟩
  statuses other _ lasts := ⟨lasting other lasts, by simpa using (unseen other).statuses⟩
  sound sound := sound.congr (by rw [(unseen w).coordination]) (unseen w).documents
  tile _ := by
    have coordination := (unseen w).coordination
    refine tile_congr (by rw [coordination]) (by rw [coordination]) (by rw [coordination]) ?_
    rw [blank_activeDocument?, blank_activeDocument?, coordination, (unseen w).documents]

/-- What is only said, and not of the tile, makes nothing of it. -/
theorem of_onlySays (unseen : ∀ w : Workspace ω, w.Unseen (f w)) (speech : ∀ w : Workspace ω, w.OnlySays (f w)) :
    Redraws f w [] := by
  refine of_unseen unseen (fun other same => ?_) fun w lasting => ?_
  · rw [settled_of_onlySays (speech other), settled_of_onlySays (speech w), same.settled]
  · obtain ⟨outlet, more, changed⟩ := speech w
    rw [changed]
    exact more.lasting lasting

/-- A change of which nothing is said has to leave what the tile shows as it is. -/
theorem of_silent (alike : ∀ other, w.Alike other → (f w).Alike (f other))
    (silent : ∀ w, (f w).outlet = w.outlet) (sound : w.IsSound → (f w).IsSound)
    (tile : w.IsSound → (f w).tile = w.tile) : Redraws f w [] where
  -- Nothing is added to what was told, and the tile stays.
  alike := alike
  statuses other _ lasting := by
    rw [silent]
    exact ⟨lasting, (List.append_nil _).symm⟩
  sound := sound
  tile := tile

end Redraws

/-- Drawing the tile again leaves all else as it is. -/
theorem alike_renderStatus (w : Workspace ω) : w.Alike w.renderStatus := by
  obtain ⟨outlet, -, same⟩ := onlySays_renderStatus w
  rw [same]
  exact ⟨rfl, rfl, rfl⟩

/-- Workspaces that are like the same one are like each other. -/
theorem Alike.of_same {w other first second : Workspace ω} (same : w.Alike other)
    (left : w.Alike first) (right : other.Alike second) : first.Alike second :=
  ⟨right.settled.trans (same.settled.trans left.settled.symm),
    right.coordination.trans (same.coordination.trans left.coordination.symm),
    right.documents.trans (same.documents.trans left.documents.symm)⟩

/-- A message is sent after all others, and the connection lasts. -/
theorem statuses_status (w : Workspace ω) (lasting : w.outlet.writesLeft = none)
    (snapshot : Option StatusSnapshot) :
    (w.send (.status snapshot)).outlet.writesLeft = none ∧
      (w.send (.status snapshot)).outlet.statuses = w.outlet.statuses ++ [snapshot] := by
  -- A lasting connection rules out that the message is dropped.
  refine ⟨(Outlet.saysMore_send w.outlet rfl).lasting lasting, ?_⟩
  rcases Outlet.statuses_send_cases w.outlet (.status snapshot) with sent | ⟨closed, -⟩
  · exact sent
  · simp [lasting] at closed

/-- After a change that does not turn it off, drawing the tile again brings it up to date. -/
theorem redraws_renderStatus (change : Workspace ω → Workspace ω) {w : Workspace ω}
    (alike : ∀ other, w.Alike other → (change w).Alike (change other))
    (silent : ∀ w, (change w).outlet = w.outlet)
    (bar : (change w).coordination.statusBar = false → w.coordination.statusBar = false)
    (sound : w.IsSound → (change w).IsSound) :
    Redraws (fun w => (change w).renderStatus) w ((change w).tile.toList.map some) := by
  have drawn := alike_renderStatus (change w)
  refine ⟨fun other same => (alike other same).of_same drawn (alike_renderStatus _), ?_, ?_, ?_⟩
  · intro other same lasting
    -- What is drawn is what the tile of any like workspace is to show.
    rw [← (alike other same).tile]
    unfold renderStatus tile
    rw [← silent other] at lasting
    split
    · simpa [silent] using statuses_status _ lasting _
    · simpa [silent] using lasting
  · exact fun before => (sound before).congr (by rw [drawn.coordination]) drawn.documents
  · intro _
    rw [drawn.tile]
    -- Without a tile now, there was none before either.
    unfold tile
    cases off : (change w).coordination.statusBar with
    | true => simp
    | false => simp [bar off]

/-! ## Settings -/

/-- Which formatters run when can be changed for all that is alike. -/
theorem Alike.coordinated {w other : Workspace ω} (same : w.Alike other)
    (change : Coordination → Coordination) :
    Alike { w with coordination := change w.coordination }
      { other with coordination := change other.coordination } := by
  -- Of what was set, the coordination has the two switches.
  have switches : ({ other.settled with
      statusBar := (change other.coordination).statusBar
      onSaveEnabled := (change other.coordination).onSaveEnabled } : Settled) =
    { w.settled with
      statusBar := (change w.coordination).statusBar
      onSaveEnabled := (change w.coordination).onSaveEnabled } := by
    rw [same.settled, same.coordination]
  exact ⟨switches, congrArg change same.coordination, same.documents⟩

/-- Drawing the tile again after a change of the coordination brings it up to date. -/
theorem redraws_coordinated (change : Coordination → Coordination) {w : Workspace ω}
    (bar : (change w.coordination).statusBar = false → w.coordination.statusBar = false)
    (active : w.IsSound → ∀ handle, (change w.coordination).activeDocument = some handle →
      (w.document? handle).isSome) :
    ∃ told, Redraws (fun w => renderStatus { w with coordination := change w.coordination }) w told :=
  ⟨_, redraws_renderStatus _ (fun _ same => same.coordinated change) (fun _ => rfl) bar fun sound =>
    ⟨sound.documents, active sound⟩⟩

/-- Turning the tile on or off brings it up to date. -/
theorem redraws_setStatusBar (w : Workspace ω) (enabled : Bool) :
    ∃ told, Redraws (·.setStatusBar enabled) w told := by
  let change (coordination : Coordination) : Coordination :=
    { coordination with statusBar := enabled }
  have alike : ∀ other, w.Alike other → Alike { w with coordination := change w.coordination }
      { other with coordination := change other.coordination } :=
    fun _ same => same.coordinated change
  have sound : w.IsSound → IsSound { w with coordination := change w.coordination } :=
    fun sound => ⟨sound.documents, sound.active⟩
  cases enabled with
  | true => exact redraws_coordinated change (by simp [change]) fun sound => sound.active
  | false =>
    cases was : w.coordination.statusBar with
    | false =>
      -- A tile that is not there is not removed.
      refine ⟨[], (Redraws.of_silent (f := fun w => { w with coordination := change w.coordination })
        alike (fun _ => rfl) sound fun _ => ?_).congr fun other same => ?_⟩
      · simp [tile, was, change]
      · have off : other.coordination.statusBar = false := by rw [same.coordination, was]
        simp [setStatusBar, off, change]
    -- The tile is removed once, and nothing of it is drawn afterwards.
    | true =>
      have removed : ∀ other, w.Alike other → other.setStatusBar false =
          send { other with coordination := change other.coordination } (.status none) := by
        intro other same
        have on : other.coordination.statusBar = true := by rw [same.coordination, was]
        simp [setStatusBar, on, change]
      refine ⟨[none], fun other same => ?_, fun other same lasting => ?_, fun before => ?_, fun _ => ?_⟩
      · rw [removed other same, removed w (.refl w)]
        exact ⟨(alike other same).settled, (alike other same).coordination, same.documents⟩
      · rw [removed other same]
        exact statuses_status { other with coordination := change other.coordination } lasting none
      · rw [removed w (.refl w)]
        exact ⟨before.documents, before.active⟩
      · rw [removed w (.refl w)]
        rfl

/-- A formatter is found in all that is alike, or in none of it. -/
theorem Alike.isNone_formatter? {w other : Workspace ω} (same : w.Alike other) (name : String) :
    (other.formatter? name).isNone = (w.formatter? name).isNone := by
  have own := congrArg (fun settled => (Settled.ownArguments settled name).isNone) same.settled
  simpa [Workspace.settled] using own

/-- Setting an order of formatters brings the tile up to date. -/
theorem redraws_setOrder (w : Workspace ω) (kind : OrderKind) (names : List String) :
    ∃ told, Redraws (·.setOrder kind names) w told := by
  by_cases same : w.coordination.order kind = names
  · -- The order that was set already is set again.
    refine ⟨[], (Redraws.of_silent (f := id) (fun _ alike => alike) (fun _ => rfl) id fun _ => rfl).congr
      fun other alike => ?_⟩
    simp [setOrder, alike.coordination, same]
  · -- Whatever is said before, the tile is drawn when the order has been replaced.
    have drawn : ∀ (speak : Workspace ω → Workspace ω) (valid : List String), Redraws speak w [] →
        (∀ other, w.Alike other → other.setOrder kind names =
          renderStatus { speak other with
            coordination := (speak other).coordination.withOrder valid kind }) →
        ∃ told, Redraws (·.setOrder kind names) w told := by
      intro speak valid spoken set
      obtain ⟨told, drawn⟩ := redraws_coordinated (w := speak w) (·.withOrder valid kind)
        (by cases kind <;> exact id) (by cases kind <;> exact fun sound => sound.active)
      exact ⟨_, (spoken.trans drawn).congr set⟩
    have known : ∀ other, w.Alike other → (fun name => (other.formatter? name).isNone) =
        fun name => (w.formatter? name).isNone :=
      fun other alike => funext fun name => alike.isNone_formatter? name
    cases unknown : names.find? fun name => (w.formatter? name).isNone with
    | none =>
      refine drawn (·.debug (kind.title ++ ": [" ++ Text.joinWith ", " names ++ "]")) names
        (.of_onlySays (fun w => unseen_debug w _) fun w => onlySays_debug w _) ?_
      intro other alike
      simp [setOrder, alike.coordination, same, known other alike, unknown]
    | some name =>
      -- A single unknown name is reported, and it empties the order.
      refine drawn (fun w => (w.report (.configuration (.unknownFormatterInOrder kind name))).debug
        (kind.title ++ ": [" ++ Text.joinWith ", " [] ++ "]")) []
        (.of_onlySays (fun w => (unseen_report w _).trans (unseen_debug _ _)) fun w =>
          (onlySays_report w _).trans (onlySays_debug _ _)) ?_
      intro other alike
      simp [setOrder, alike.coordination, same, known other alike, unknown]

section Settings

variable [World ω]

/-- A setting that is not about the tile takes effect unseen. -/
theorem unseen_apply (update : Update) (w : Workspace ω)
    (other : update.target ≠ .statusBar ∧ update.target ≠ .onSaveEnabled ∧
      ∀ kind, update.target ≠ .order kind) : w.Unseen (update.apply w) := by
  obtain ⟨target, value⟩ := update
  cases target with
  | errorHandling => exact ⟨rfl, rfl, rfl⟩
  | busySignal => exact unseen_setBusyEnabled w _
  | statusBar => exact absurd rfl other.1
  | onSaveEnabled => exact absurd rfl other.2.1
  | order kind => exact absurd rfl (other.2.2 kind)
  | slot name slot =>
    simp only [Update.apply, applyTarget]
    -- The formatter of the setting may not be registered.
    split
    · exact unseen_applySlot w _ slot value
    · exact .refl w

/-- A setting that takes effect brings the tile up to date. -/
theorem redraws_apply (update : Update) (w : Workspace ω) : ∃ told, Redraws update.apply w told := by
  -- Most targets are no part of what the tile is made of.
  have unseen : (∀ w : Workspace ω, w.Unseen (update.apply w)) → Redraws update.apply w [] :=
    fun unseen => .of_unseen unseen
      (fun other same => by rw [settled_apply, settled_apply, same.settled])
      fun w lasting => (calm_apply update w).speech.lasting lasting
  obtain ⟨target, value⟩ := update
  cases target with
  | statusBar => exact redraws_setStatusBar w _
  | onSaveEnabled =>
    exact redraws_coordinated (fun coordination =>
      { coordination with onSaveEnabled := Settings.isTrue value }) id fun sound => sound.active
  | order kind => exact redraws_setOrder w kind _
  | errorHandling | busySignal | slot =>
    exact ⟨[], unseen fun w => unseen_apply _ w (by simp)⟩

/-- Settings that take effect bring the tile up to date. -/
theorem redraws_foldl_apply (updates : List Update) (w : Workspace ω) :
    ∃ told, Redraws (fun w => updates.foldl (fun w update => update.apply w) w) w told := by
  -- The induction is on the updates, each of which keeps the tile up to date.
  induction updates generalizing w with
  | nil => exact ⟨[], .of_silent (fun _ same => same) (fun _ => rfl) id fun _ => rfl⟩
  | cons update rest ih =>
    obtain ⟨first, applied⟩ := redraws_apply update w
    obtain ⟨later, others⟩ := ih (update.apply w)
    exact ⟨_, applied.trans others⟩

end Settings

end Workspace

end FormatPipeline
