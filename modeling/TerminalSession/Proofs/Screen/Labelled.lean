import TerminalSession.Proofs.Label.Drawing
import TerminalSession.Proofs.Screen.Addressed
import TerminalSession.Proofs.Screen.Conduct

/-!
# A strip that is up to date

Labels change while there is a session and while there is none, and the strip that shows them is
made, rearranged and drawn by different calls. As long as the application leaves the cells of the
strip alone, each of these calls draws again what it has put out of date: the strip of a consistent
session always shows the labels as they are (`strip_shows_labels`).
-/

namespace TerminalSession.Life

open TerminalSession.Action

/-- The application leaves size and cells of the strip as they are. -/
def sparesStrip : Conduct := fun windows b b' => ∀ id ∈ windows.strip,
  (b'.window? id).map (fun w => (w.cols, w.lines)) = (b.window? id).map fun w => (w.cols, w.lines)

/-! ## Windows that show labels -/

/-- A window of so many rows and columns looks as if the labels had been drawn into a blank one. -/
structure Shows (labels : SoftLabels) (rows cols : Nat) (w : Window) : Prop where
  lines : w.lines = ((Window.blank ⟨0, 0, rows, cols⟩).edits labels.drawn).lines
  width : w.cols = cols

section

variable {labels labels' : SoftLabels} {format : LabelFormat} {rows cols : Nat} {w w' : Window}

/-- Whatever a window looked like, it shows the labels once they are drawn. -/
theorem shows_drawn (hw : w.Rectangular) (hrows : w.rows = rows) (hcols : w.cols = cols)
    (hformat : labels.format = some format) : Shows labels rows cols (w.edits labels.drawn) := by
  have hblank : (Window.blank ⟨0, 0, rows, cols⟩).rows = rows := by
    simp [Window.blank, Window.rows]
  exact ⟨SoftLabels.lines_drawn hw (Window.rectangular_blank _) (hrows.trans hblank.symm) hcols
    hformat, (congrArg Rect.cols (labels.area_drawn w)).trans hcols⟩

theorem Shows.congr (h : Shows labels rows cols w) (hcols : w'.cols = w.cols)
    (hlines : w'.lines = w.lines) : Shows labels rows cols w' :=
  ⟨hlines.trans h.lines, hcols.trans h.width⟩

theorem Shows.height (h : Shows labels rows cols w) : w.rows = rows := by
  have harea := congrArg Rect.rows (labels.area_drawn (.blank ⟨0, 0, rows, cols⟩))
  rw [Window.area_blank] at harea
  rw [Window.rows, h.lines]
  exact harea

theorem Shows.rectangular (h : Shows labels rows cols w) : w.Rectangular := by
  have hcols := congrArg Rect.cols (labels.area_drawn (.blank ⟨0, 0, rows, cols⟩))
  rw [Window.area_blank] at hcols
  intro line hline
  rw [h.lines] at hline
  rw [h.width]
  exact (Window.rectangular_edits (Window.rectangular_blank _) _ line hline).trans hcols

/-- Drawing other labels into a window that shows some. -/
theorem Shows.redrawn (h : Shows labels rows cols w) (hformat : labels'.format = some format) :
    Shows labels' rows cols (w.edits labels'.drawn) :=
  shows_drawn h.rectangular h.height h.width hformat

end

/-! ## Sessions with a strip -/

/-- The layout of a session has the strip that the labels need. -/
structure Stripped (i : Interior Buffers) (session : Session) : Prop where
  nodup : session.windows.all.Nodup
  rows : session.layout.strip.rows = i.labels.lineCount
  top : session.layout.stripTop.isSome = decide (session.layout.strip.rows ≠ 0)
  strip : session.windows.strip.isSome = session.layout.stripTop.isSome

/-- The labels are laid out for a session and shown by its strip. -/
structure Shown (i : Interior Buffers) (session : Session) : Prop where
  columns : i.labels.FitsColumns session.layout.terminalCols
  shows : ∀ id ∈ session.windows.strip, ∃ w, i.engine.window? id = some w ∧
    Shows i.labels session.layout.strip.rows session.layout.terminalCols w

/-- What holds of the labels of a screen and of the session that shows them. -/
structure Labelled (i : Interior Buffers) : Prop where
  complete : i.labels.Complete
  stripped : ∀ session, i.session = some session → Stripped i session
  shown : ∀ session, i.session = some session → session.consistent = true → Shown i session

theorem isSome_format_iff (labels : SoftLabels) : labels.format.isSome ↔ labels.lineCount ≠ 0 := by
  rw [SoftLabels.lineCount]
  cases labels.format with
  | none => simp
  | some format => cases format <;> simp [LabelFormat.lineCount]

variable {i i' : Interior Buffers} {session session' : Session}

theorem Stripped.isSome_strip (h : Stripped i session) :
    session.windows.strip.isSome = i.labels.isInitialized := by
  rw [h.strip, h.top, h.rows, SoftLabels.isInitialized, Bool.eq_iff_iff, decide_eq_true_iff]
  exact (isSome_format_iff _).symm

theorem Stripped.format (h : Stripped i session) {id : WindowId}
    (hid : session.windows.strip = some id) : ∃ format, i.labels.format = some format := by
  have hsome := h.isSome_strip
  rw [hid] at hsome
  exact Option.isSome_iff_exists.mp hsome.symm

theorem Stripped.format_of_none (h : Stripped i session) (hid : session.windows.strip = none) :
    i.labels.format = none := by
  have hsome := h.isSome_strip
  rw [hid] at hsome
  exact Option.isSome_eq_false_iff.mp hsome.symm |> Option.isNone_iff_eq_none.mp

theorem Stripped.congr (h : Stripped i session) (hformat : i'.labels.format = i.labels.format)
    (hlayout : session'.layout = session.layout) (hwindows : session'.windows = session.windows) :
    Stripped i' session' := by
  refine ⟨?_, ?_, ?_, ?_⟩
  · rw [hwindows]
    exact h.nodup
  · rw [hlayout, h.rows, SoftLabels.lineCount, SoftLabels.lineCount, hformat]
  · rw [hlayout]
    exact h.top
  · rw [hwindows, hlayout]
    exact h.strip

/-- Without labels there is nothing to be shown. -/
theorem Shown.of_not_initialized (hid : session.windows.strip = none)
    (hformat : i.labels.format = none) : Shown i session :=
  ⟨fun _ h => (nomatch hformat.symm.trans h), fun _ h => nomatch hid.symm.trans h⟩

theorem Shown.congr (h : Shown i session) (hlabels : i'.labels = i.labels)
    (hlayout : session'.layout = session.layout) (hwindows : session'.windows = session.windows)
    (hengine : sparesStrip session.windows i.engine i'.engine) : Shown i' session' := by
  refine ⟨?_, fun id hid => ?_⟩
  · rw [hlabels, hlayout]
    exact h.columns
  · rw [hwindows] at hid
    obtain ⟨w, hw, hshows⟩ := h.shows id hid
    have hsame := hengine id hid
    rw [hw, Option.map_some, Option.map_eq_some_iff] at hsame
    obtain ⟨w', hw', hsame⟩ := hsame
    rw [Prod.mk.injEq] at hsame
    rw [hlabels, hlayout]
    exact ⟨w', hw', hshows.congr hsame.1 hsame.2⟩

/-- Without a session nothing is to be shown. -/
theorem Labelled.of_none (hs : i.session = none) (hcomplete : i.labels.Complete) : Labelled i :=
  ⟨hcomplete, fun _ h => (nomatch hs.symm.trans h), fun _ h => nomatch hs.symm.trans h⟩

/-- A session whose layout, windows and labels stay as they are goes on showing them. -/
theorem Labelled.quiet (h : Labelled i)
    (hsession : i'.session.map arrangement = i.session.map arrangement)
    (hlabels : i'.labels = i.labels)
    (hengine : ∀ session, i.session = some session →
      sparesStrip session.windows i.engine i'.engine) : Labelled i' := by
  rcases of_map_arrangement hsession with ⟨hs', -⟩ |
    ⟨session', session, hs', hs, hconsistent, hlayout, hwindows⟩
  · exact .of_none hs' (hlabels ▸ h.complete)
  refine ⟨hlabels ▸ h.complete, fun session₁ h₁ => ?_, fun session₁ h₁ hconsistent₁ => ?_⟩
  · cases hs'.symm.trans h₁
    exact (h.stripped session hs).congr (by rw [hlabels]) hlayout hwindows
  · cases hs'.symm.trans h₁
    exact (h.shown session hs (hconsistent ▸ hconsistent₁)).congr hlabels hlayout hwindows
      (hengine session hs)

theorem sparesStrip_refl (windows : WindowSet) (b : Buffers) : sparesStrip windows b b :=
  fun _ _ => rfl

theorem Labelled.ended (h : Labelled i) : Labelled i.ended := by
  rw [Interior.ended]
  split
  · exact h
  · exact .of_none rfl (SoftLabels.complete_ofConfig _)

theorem Labelled.cleared (h : Labelled i) : Labelled i.cleared := by
  rw [Interior.cleared]
  split
  · exact h.ended
  · exact h

/-! ## Drawing -/

/-- A new label is drawn. -/
theorem Labelled.drawn {index : Nat} {text : String} {justify : Justify} {labels : SoftLabels}
    (h : Labelled i) (hc : Coherent i) (hset : i.labels.setLabel index text justify = .ok labels) :
    Labelled { i with labels, engine := i.engine.changeAll labels.redrawn } := by
  obtain ⟨hwindow, hformat⟩ := SoftLabels.of_setLabel hset
  refine ⟨h.complete.setLabel hset, fun session hs => ?_, fun session hs hconsistent => ?_⟩
  · exact (h.stripped session hs).congr hformat rfl rfl
  · have hold := h.shown session hs hconsistent
    refine ⟨hold.columns.setLabel hset, fun id hid => ?_⟩
    obtain ⟨w, hw, hshows⟩ := hold.shows id hid
    obtain ⟨format, hsome⟩ := (h.stripped session hs).format hid
    have hid' : labels.window = some id := by
      rw [hwindow, hc.window hs]
      exact hid
    refine ⟨w.edits labels.drawn, ?_, hshows.redrawn (hformat.trans hsome)⟩
    rw [Buffers.window?_changeAll, hw, Buffers.addressed_redrawn hid', Option.map_some]

/-- The strip is there to be drawn into, unless a resize has broken the session. -/
theorem Labelled.not_drawn {index : Nat} {text : String} {justify : Justify} {labels : SoftLabels}
    {id : WindowId} (h : Labelled i) (hc : Coherent i)
    (hset : i.labels.setLabel index text justify = .ok labels) (hwindow : labels.window = some id)
    (hgone : i.engine.window? id = none) : Labelled { i with labels } := by
  obtain ⟨hsame, hformat⟩ := SoftLabels.of_setLabel hset
  refine ⟨h.complete.setLabel hset, fun session hs => ?_, fun session hs hconsistent => ?_⟩
  · exact (h.stripped session hs).congr hformat rfl rfl
  · have hid : session.windows.strip = some id := by
      rw [← hwindow, hsame, hc.window hs]
    obtain ⟨w, hw, -⟩ := (h.shown session hs hconsistent).shows id hid
    cases hgone.symm.trans hw

/-- A strip that is rearranged shows the labels as they are laid out for it. -/
theorem Shown.rearranged {l : Layout} {id : WindowId} {top : Nat} (h : Shown i session)
    (hstripped : Stripped i session) (hcomplete : i.labels.Complete)
    (hlabels : i.labels.window = session.windows.strip) (hid : session.windows.strip = some id)
    (htop : l.stripTop = some top) :
    Shown { i with
      engine := i.engine.changeAll (session.windows.rearrangement l i.labels)
      labels := session.windows.relabel l i.labels } { session with layout := l } := by
  have hplace : session.windows.stripPlace? l =
      some (id, ⟨top, 0, l.strip.rows, l.terminalCols⟩) := by
    simp [WindowSet.stripPlace?, Layout.stripArea?, hid, htop]
  have hrelabel : session.windows.relabel l i.labels = i.labels.layOut l.terminalCols := by
    rw [WindowSet.relabel, hplace]
  obtain ⟨format, hformat⟩ := hstripped.format hid
  obtain ⟨w, hw, hshows⟩ := h.shows id hid
  let placed := w.edits [.resize l.strip.rows l.terminalCols, .move top 0]
  have harea : placed.area = ⟨top, 0, l.strip.rows, l.terminalCols⟩ := Window.area_edits ..
  rw [hrelabel]
  refine ⟨SoftLabels.fitsColumns_layOut hcomplete _, fun id' hid' => ?_⟩
  cases hid.symm.trans hid'
  refine ⟨placed.edits (i.labels.layOut l.terminalCols).drawn, ?_,
    shows_drawn (Window.rectangular_edits hshows.rectangular _) (congrArg Rect.rows harea)
      (congrArg Rect.cols harea) ((i.labels.format_layOut _).trans hformat)⟩
  rw [Buffers.window?_changeAll, hw,
    WindowSet.addressed_strip (WindowSet.distinct_of_nodup hstripped.nodup) hlabels hplace]
  rfl

theorem complete_relabel {labels : SoftLabels} (h : labels.Complete)
    (windows : WindowSet) (l : Layout) : (windows.relabel l labels).Complete := by
  unfold WindowSet.relabel
  split
  · exact h
  · exact h.layOut _

/-- A session of another layout is shown by the strip once its windows are rearranged. -/
theorem Labelled.rearranged {l : Layout} (h : Labelled i) (hc : Coherent i)
    (hs : i.session = some session) (hconsistent : session.consistent = true)
    (hl : ∃ rows cols, Layout.allocate rows cols session.layout.sides session.layout.strip = .ok l) :
    Labelled { i with
      engine := i.engine.changeAll (session.windows.rearrangement l i.labels)
      labels := session.windows.relabel l i.labels
      session := some { session with layout := l, resized := false } } := by
  obtain ⟨rows, cols, hl⟩ := hl
  have hallocated := Layout.of_allocate hl
  have hold := h.stripped session hs
  have hformat := session.windows.format_relabel l i.labels
  have htop : l.stripTop.isSome = decide (l.strip.rows ≠ 0) := by
    rw [hallocated.isSome_stripTop, hallocated.placement]
  have hsame : l.stripTop.isSome = session.layout.stripTop.isSome := by
    rw [htop, hallocated.placement, hold.top]
  refine ⟨complete_relabel h.complete _ _, fun session' h' => ?_, fun session' h' _ => ?_⟩
  · cases h'
    refine ⟨hold.nodup, ?_, htop, hold.strip.trans hsame.symm⟩
    exact (hallocated.placement ▸ hold.rows).trans (SoftLabels.lineCount_congr hformat).symm
  · cases h'
    cases hid : session.windows.strip with
    | none => exact .of_not_initialized hid (hformat.trans (hold.format_of_none hid))
    | some id =>
      obtain ⟨top, htop'⟩ : ∃ top, l.stripTop = some top := by
        rw [← Option.isSome_iff_exists, hsame, ← hold.strip, hid]
        rfl
      exact ((h.shown session hs hconsistent).rearranged hold h.complete (hc.window hs) hid
        htop').congr rfl rfl rfl (sparesStrip_refl _ _)

/-- A session that is broken keeps its strip, with labels that may have other columns. -/
theorem Labelled.broken {l : Layout} {labels : SoftLabels} {engine : Buffers} (h : Labelled i)
    (hs : i.session = some session)
    (hlabels : labels = i.labels ∨ labels = session.windows.relabel l i.labels) :
    Labelled { i with
      engine
      labels
      session := some { session with alive := false, consistent := false }
      phase := .suspended } := by
  have hsame : labels.Complete ∧ labels.format = i.labels.format := by
    rcases hlabels with rfl | rfl
    · exact ⟨h.complete, rfl⟩
    · exact ⟨complete_relabel h.complete _ _, session.windows.format_relabel l i.labels⟩
  refine ⟨hsame.1, fun session' h' => ?_, fun session' h' hconsistent => ?_⟩
  · cases h'
    exact (h.stripped session hs).congr hsame.2 rfl rfl
  · cases h'
    cases hconsistent

/-! ## Sessions that begin -/

theorem complete_placed {labels : SoftLabels} (h : labels.Complete) (cols : Nat)
    (strip : Option WindowId) : (labels.placed cols strip).Complete := by
  cases strip with
  | none => exact h
  | some id => exact SoftLabels.Complete.layOut (s := { labels with window := some id }) h cols

theorem fitsColumns_placed {labels : SoftLabels} (h : labels.Complete) (cols : Nat)
    (id : WindowId) : (labels.placed cols (some id)).FitsColumns cols :=
  SoftLabels.fitsColumns_layOut (s := { labels with window := some id }) h cols

/-- A new session has the strip that its labels need. -/
theorem stripped_built (hl : ∃ rows cols, i.allocate rows cols = .ok session.layout)
    (hwindows : session.windows = session.layout.numbered i.engine.slots.size) :
    Stripped (i.built session.layout) session := by
  obtain ⟨rows, cols, hl⟩ := hl
  have hallocated := Layout.of_allocate hl
  refine ⟨?_, ?_, ?_, ?_⟩
  · rw [hwindows]
    exact session.layout.nodup_all_numbered _
  · rw [hallocated.placement]
    exact (SoftLabels.lineCount_congr (i.labels.format_placed _ _)).symm
  · rw [hallocated.isSome_stripTop, hallocated.placement]
  · rw [hwindows]
    simp [Layout.numbered, Layout.stripArea?]

/-- The strip of a new session has been drawn. -/
theorem shown_built (hcomplete : i.labels.Complete)
    (hl : ∃ rows cols, i.allocate rows cols = .ok session.layout)
    (hwindows : session.windows = session.layout.numbered i.engine.slots.size) :
    Shown (i.built session.layout) session := by
  have hstripped := stripped_built hl hwindows
  cases hid : session.windows.strip with
  | none => exact .of_not_initialized hid (hstripped.format_of_none hid)
  | some id =>
    obtain ⟨top, htop⟩ : ∃ top, session.layout.stripTop = some top := by
      rw [← Option.isSome_iff_exists, ← hstripped.strip, hid]
      rfl
    obtain rfl : i.engine.slots.size + 2 = id := by
      rw [hwindows] at hid
      simpa [Layout.numbered, Layout.stripArea?, htop] using hid
    obtain ⟨format, hformat⟩ := hstripped.format hid
    have hlabels : (i.built session.layout).labels =
        i.labels.placed session.layout.terminalCols (some (i.engine.slots.size + 2)) := by
      rw [← hid, hwindows]
      rfl
    refine ⟨?_, fun id' hid' => ?_⟩
    · rw [hlabels]
      exact fitsColumns_placed hcomplete _ _
    cases hid.symm.trans hid'
    let blank : Window := .blank ⟨top, 0, session.layout.strip.rows, session.layout.terminalCols⟩
    have hdrawn : (newWindows i.config i.labels session.layout)[2]? =
        some (blank.edits (i.built session.layout).labels.drawn) := by
      rw [hlabels, Screen.drawn_placed _ _ _ 0]
      simp [newWindows, Layout.stripArea?, htop, blank]
    obtain ⟨hlt, hdrawn⟩ := List.getElem?_eq_some_iff.mp hdrawn
    have hblank : blank.rows = session.layout.strip.rows := by
      simp [blank, Window.blank, Window.rows]
    exact ⟨_, (Buffers.window?_addAll_of_lt hlt).trans (congrArg some hdrawn),
      shows_drawn (Window.rectangular_blank _) hblank rfl hformat⟩

/-- Initializers leave the strip of a new session as it was drawn. -/
theorem Labelled.created (h : Labelled i)
    (hl : ∃ rows cols, i.allocate rows cols = .ok session.layout)
    (hwindows : session.windows = session.layout.numbered i.engine.slots.size)
    (hlabels : i'.labels = (i.built session.layout).labels) (hs : i'.session = some session)
    (hengine : sparesStrip session.windows (i.built session.layout).engine i'.engine) :
    Labelled i' := by
  refine ⟨?_, fun session' h' => ?_, fun session' h' _ => ?_⟩
  · rw [hlabels]
    exact complete_placed h.complete _ _
  · cases hs.symm.trans h'
    exact (stripped_built hl hwindows).congr (by rw [hlabels]) rfl rfl
  · cases hs.symm.trans h'
    exact (shown_built h.complete hl hwindows).congr hlabels rfl rfl hengine

/-! ## Lives -/

variable {T : Type} [Terminal T] {r : Life T Buffers}

/-- Every call leaves the strip up to date. -/
theorem Labelled.call {c : Call Buffers} (h : Permits sparesStrip r (.call c))
    (hc : Coherent r.screen.interior) (hr : Labelled r.screen.interior) :
    Labelled (r.move (.call c)).screen.interior := by
  rcases hcall : exec c.action r.screen with ⟨result, s'⟩
  have hturned := c.turned hcall
  rw [move_call hcall]
  generalize hi : s'.interior = i' at hturned
  have hspares {i : Interior Buffers} (hengine : i.engine = r.screen.engine) :
      ∀ session, r.screen.interior.session = some session →
        sparesStrip session.windows r.screen.interior.engine i.engine := by
    intro session _
    rw [hengine]
    exact sparesStrip_refl _ _
  cases hturned with
  | lineRefused | labelsRefused | labelRefused | suspendRefused | resumeRefused | resumeNeedless
  | resizeRefused | createRefused => exact hr
  | lineReserved => exact hr.quiet rfl rfl (hspares rfl)
  | labelsChosen hs hinit => exact .of_none hs (SoftLabels.complete_init hinit)
  | labelKept hs hset => exact .of_none hs (hr.complete.setLabel hset)
  | labelDrawn hs hset => exact hr.drawn hc hset
  | labelNotDrawn hs hset hwindow hgone => exact hr.not_drawn hc hset hwindow hgone
  | resizeReported | suspended hphase =>
    refine hr.quiet ?_ rfl (hspares rfl)
    rw [Option.map_map]
    rfl
  | @resumed session hphase hs hconsistent =>
    refine hr.quiet ?_ rfl fun session' hs' id hid => ?_
    · exact (congrArg (Option.map arrangement) hs).symm
    · cases hs.symm.trans hs'
      have hdistinct := WindowSet.distinct_of_nodup (hr.stripped session hs).nodup
      rw [Buffers.window?_modifyWindow, if_neg (hdistinct.strip id hid).2.2.1]
      rfl
  | notLaidOut hphase hs hgranted hcause =>
    exact hr.quiet (congrArg (Option.map arrangement) hs).symm rfl (hspares rfl)
  | broken hphase hs hgranted hl hdone hperformed hlabels =>
    exact hr.broken hs hlabels
  | @resized rows cols session l hphase hs hl hperformed =>
    exact (hr.rearranged hc hs (hc.alive hphase session hs) hl).quiet rfl rfl
      fun session' _ => sparesStrip_refl _ _
  | destroyed => exact hr.ended
  | notOpened => exact hr.cleared
  | notBuilt => exact .of_none (hc.session_cleared ‹_›) hr.cleared.complete
  | @created args session hphase hprospect hwindows halive hconsistent hresized =>
    have hengine := h s' session hcall (congrArg Interior.session hi)
    rw [show s'.engine = _ from congrArg Interior.engine hi] at hengine
    exact hr.cleared.created (Screen.of_prospect_ok hprospect).1 hwindows rfl rfl hengine

theorem labelled_moves {terminal : T} {engine : Buffers} {config : Config} {s : Screen T Buffers}
    (h : Screen.new terminal engine config = .ok s) {ms : List (Move T Buffers)}
    (hconducts : Conducts sparesStrip ⟨s, []⟩ ms) :
    Labelled (moves ⟨s, []⟩ ms).screen.interior := by
  have hnew : Labelled s.interior := by
    rw [Screen.interior_new h]
    exact .of_none rfl (SoftLabels.complete_ofConfig config)
  refine (hconducts.preserves (I := fun r => Coherent r.screen.interior ∧ Labelled r.screen.interior)
    (fun r m hpermits hr => ⟨?_, ?_⟩) ⟨coherent_new h, hnew⟩).2
  · exact hr.1.move m
  · cases m with
    | call c => exact hr.2.call hpermits hr.1
    | terminal f => exact hr.2
    | engine f => exact hr.2.quiet rfl rfl hpermits
    | modes modes =>
      refine hr.2.quiet ?_ rfl fun session _ => sparesStrip_refl _ _
      change (r.screen.session.map _).map _ = _
      rw [Option.map_map]
      rfl

/-- **The strip shows the labels.** While the application leaves the cells of the strip alone, a
consistent session has a strip exactly if there are labels, and the labels are drawn into it. They
have the columns that their format gives them at the width of the terminal, and the strip looks as
if the labels, as they are now, were drawn into a blank window of its size in any engine. -/
theorem strip_shows_labels {terminal : T} {engine : Buffers} {config : Config}
    {s : Screen T Buffers} (h : Screen.new terminal engine config = .ok s)
    {ms : List (Move T Buffers)} (hconducts : Conducts sparesStrip ⟨s, []⟩ ms) {session : Session}
    (hs : (moves ⟨s, []⟩ ms).screen.session = some session)
    (hconsistent : session.consistent = true) :
    let r := moves ⟨s, []⟩ ms
    let labels := r.screen.labels
    let cols := session.layout.terminalCols
    labels.isInitialized = session.windows.strip.isSome ∧
    labels.window = session.windows.strip ∧
    (∀ format, labels.format = some format →
      labels.starts = format.starts cols ∧ labels.width = format.textWidth cols) ∧
    ∀ id ∈ session.windows.strip, ∃ w, r.screen.engine.window? id = some w ∧
      w.rows = labels.lineCount ∧ w.cols = cols ∧
      ∀ (b : Buffers) top left, b.window? id = some (.blank ⟨top, left, w.rows, w.cols⟩) →
        ∃ b' w', exec labels.draw b = (.ok (), b') ∧ b'.window? id = some w' ∧
          w'.lines = w.lines := by
  have hc := coherent_moves h ms
  have hlabelled := labelled_moves h hconducts
  have hstripped := hlabelled.stripped session hs
  have hshown := hlabelled.shown session hs hconsistent
  have hwindow : (moves ⟨s, []⟩ ms).screen.labels.window = session.windows.strip := by
    refine hc.labels.trans ?_
    rw [show (moves ⟨s, []⟩ ms).screen.interior.session = some session from hs]
    rfl
  refine ⟨hstripped.isSome_strip.symm, hwindow, hshown.columns, fun id hid => ?_⟩
  obtain ⟨w, hw, hshows⟩ := hshown.shows id hid
  obtain ⟨format, hformat⟩ := hstripped.format hid
  refine ⟨w, hw, hshows.height.trans hstripped.rows, hshows.width, fun b top left hb => ?_⟩
  obtain ⟨b', hdraw, hdrawn⟩ := SoftLabels.exec_draw (hwindow.trans hid) hb
  have hblank : (Window.blank ⟨top, left, w.rows, w.cols⟩).rows = w.rows := by
    simp [Window.blank, Window.rows]
  have hshows' := shows_drawn (Window.rectangular_blank ⟨top, left, w.rows, w.cols⟩)
    (hblank.trans hshows.height) hshows.width hformat
  exact ⟨b', _, hdraw, hdrawn, hshows'.lines.trans hshows.lines.symm⟩

/-- A screen on a terminal of seven rows and forty columns. -/
def wide : Screen Headless Buffers where
  terminal := { rows := 7, cols := 40 }
  engine := {}

theorem new_wide : Screen.new { rows := 7, cols := 40 } {} {} = .ok wide := rfl

/-- Labels are chosen and set, and shown by a session whose display, window 3, is written to. -/
def labelling : List (Move Headless Buffers) :=
  [.call (.initLabels 3), .call (.setLabel 1 "Help" .left), .call (.create [])]

/-- The session is resized, labelled again while it is suspended, and resumed. -/
def relabelling : List (Move Headless Buffers) :=
  labelling ++
  [.engine fun b => b.modifyWindow 3 (·.edit (.putText 0 0 "text")),
    .terminal ({ · with rows := 9, cols := 60 }), .call (.resize 0 0), .call .suspend,
    .call (.setLabel 12 "Quit" .center), .call .resume]

theorem strip_wide_shows_labels :
    let r := moves ⟨wide, []⟩ relabelling
    Screen.new { rows := 7, cols := 40 } {} {} = .ok wide ∧
    Conducts sparesStrip ⟨wide, []⟩ relabelling ∧
    ∃ session, r.screen.session = some session ∧ session.consistent = true ∧
      session.windows.strip = some 2 ∧ r.screen.labels.window = some 2 ∧
      r.screen.labels.starts = [0, 5, 10, 15, 20, 25, 30, 35, 40, 45, 50, 55] ∧
      ∃ w, r.screen.engine.window? 2 = some w ∧ w.rows = 2 ∧ w.cols = 60 ∧
        ∀ (b : Buffers) top left, b.window? 2 = some (.blank ⟨top, left, w.rows, w.cols⟩) →
          ∃ b' w', exec r.screen.labels.draw b = (.ok (), b') ∧ b'.window? 2 = some w' ∧
            w'.lines = w.lines := by
  have hconducts : Conducts sparesStrip ⟨wide, []⟩ relabelling := by
    have hstill : Closed fun _ b b' => b' = b :=
      ⟨fun _ _ => rfl, fun h h' => h'.trans h⟩
    refine throughout_append.mpr ⟨?_, fun session hs id hid => ?_, ?_⟩
    · refine conducts_of_obeys (fun windows b b' h => ?_)
        (obeys_of_confines hstill (List.forall_mem_nil _) ?_)
      · rw [h]
        exact sparesStrip_refl _ _
      · simp [labelling, Confines]
    · have hstrip : (moves ⟨wide, []⟩ labelling).screen.session.map (·.windows.strip) =
          some (some 2) := by
        decide +kernel
      rw [hs, Option.map_some, Option.some.injEq] at hstrip
      cases hstrip.symm.trans hid
      rw [Buffers.window?_modifyWindow, if_neg (by decide)]
    · simp [Throughout, Permits]
  have hlast : (moves ⟨wide, []⟩ relabelling).screen.session.map (fun session =>
      (session.consistent, session.windows.strip, session.layout.terminalCols)) =
      some (true, some 2, 60) := by
    decide +kernel
  have hlabels : (moves ⟨wide, []⟩ relabelling).screen.labels.format =
      some .fourFourFourIndexed := by
    decide +kernel
  obtain ⟨session, hs, hlast⟩ := Option.map_eq_some_iff.mp hlast
  simp only [Prod.mk.injEq] at hlast
  obtain ⟨hconsistent, hstrip, hcols⟩ := hlast
  obtain ⟨-, hwindow, hcolumns, hshown⟩ :=
    strip_shows_labels new_wide hconducts hs hconsistent
  obtain ⟨w, hw, hrows, hwidth, hdraw⟩ := hshown 2 hstrip
  rw [hcols] at hcolumns hwidth
  refine ⟨new_wide, hconducts, session, hs, hconsistent, hstrip, hwindow.trans hstrip,
    (hcolumns _ hlabels).1.trans (by decide), w, hw, ?_, hwidth, hdraw⟩
  rw [hrows, SoftLabels.lineCount, hlabels]
  rfl

end TerminalSession.Life
