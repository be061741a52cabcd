import StubPlan.CommandLine.Run
import StubPlan.Description.Standard
import StubPlan.Proofs.Console.Printer
import StubPlan.Proofs.Generation.PackageFolder
import StubPlan.Proofs.Options.Named

/-! What the commands show of the values of a run. All that is printed is read as markup, values too: a
value stops the run when its markup cannot be read, and it does not show as it stands when there is a
tag in it. -/
namespace StubPlan

namespace Printer

/-- Whether a printer can make out what a text with markup shows. -/
def IsReadable (p : Printer) (s : Codes) : Prop := ∃ t, p.shown s = .ok t

def CanWrite (p : Printer) (lines : List Codes) : Prop := ∃ out, lines.mapM p.encode = .ok out

/-- What shows of a text, which is the text itself when nothing in it means anything to the console,
and is not when it has a tag. -/
structure ShowsAs (p : Printer) (s t : Codes) : Prop where
  shown : p.shown s = .ok t
  whole : ∀ text : String, s = codesOf text → text.toList.all Markup.isInert → t = s
  changed : ∀ text : String, s = codesOf text → Markup.HasTag text.toList → t ≠ s

/-- A row of a table stands in printed lines, with what shows of its value. -/
def ShowsRow (p : Printer) (room : Room) (t : Table) (label : String) (value : Codes)
    (lines : List String) : Prop :=
  ∃ text block, p.ShowsAs value text ∧ block <:+: lines.map codesOf ∧
    (room.label t (codesOf label) → StandsIn (codesOf label) block) ∧
    (room.value t text → StandsIn text block)

/-- A text stands in printed lines with what shows of it, after some others. -/
def ShowsLine (p : Printer) (room : Room) (front : String) (s : Codes) (lines : List String) : Prop :=
  ∃ text block, p.ShowsAs s text ∧ block <:+: lines.map codesOf ∧
    (room.line (codesOf front ++ text) → StandsIn (codesOf front ++ text) block)

variable {p : Printer} {room : Room} {s t : Codes}

lemma ReadsMarkup.showsAs (hp : p.ReadsMarkup) (h : p.shown s = .ok t) : p.ShowsAs s t := by
  refine ⟨h, ?_, ?_⟩
  · rintro text rfl hinert
    exact Except.ok.inj (h.symm.trans (hp.shown_of_inert hinert))
  · rintro text rfl htag rfl
    exact hp.tag text htag h

lemma exists_print_iff :
    (∃ out, p.print s = .ok out) ↔ ∃ t, p.shown s = .ok t ∧ p.CanWrite (p.lines t) := by
  simp only [print, Except.bind_eq_ok_iff, CanWrite]
  rw [exists_comm]
  simp only [exists_and_left]

lemma exists_printTable_iff {t : Table} : (∃ out, p.printTable t = .ok out) ↔
    (∃ shown, p.shownTable t = .ok shown) ∧
      ∀ shown, p.shownTable t = .ok shown → p.CanWrite (p.draw shown) := by
  simp only [printTable, Except.bind_eq_ok_iff, CanWrite]
  constructor
  · rintro ⟨out, shown, hshown, hout⟩
    refine ⟨⟨shown, hshown⟩, fun other hother => ?_⟩
    obtain rfl := Except.ok.inj (hshown.symm.trans hother)
    exact ⟨out, hout⟩
  · rintro ⟨⟨shown, hshown⟩, hwrite⟩
    exact (hwrite shown hshown).imp fun out hout => ⟨shown, hshown, hout⟩

lemma shownRow_eq_ok_iff {row texts : Codes × Codes} :
    p.shownRow row = .ok texts ↔ p.shown row.1 = .ok texts.1 ∧ p.shown row.2 = .ok texts.2 := by
  simp [shownRow, pure, Except.pure, Prod.ext_iff]

lemma shownTable_eq_ok_iff {t shown : Table} : p.shownTable t = .ok shown ↔
    p.shown t.title = .ok shown.title ∧ p.shownRow t.header = .ok shown.header ∧
      t.rows.mapM p.shownRow = .ok shown.rows := by
  simp only [shownTable, Except.bind_eq_ok_iff, pure, Except.pure, Except.ok.injEq]
  constructor
  · rintro ⟨title, htitle, header, hheader, rows, hrows, rfl⟩
    exact ⟨htitle, hheader, hrows⟩
  · rintro ⟨htitle, hheader, hrows⟩
    exact ⟨_, htitle, _, hheader, _, hrows, rfl⟩

/-- With a title, a header and labels that mean nothing to the console, a table shows when the values
in it are readable. -/
lemma ReadsMarkup.exists_shownTable_iff (hp : p.ReadsMarkup) {title label value : String}
    {rows : List (String × Codes)} (htitle : title.toList.all Markup.isInert)
    (hlabel : label.toList.all Markup.isInert) (hvalue : value.toList.all Markup.isInert)
    (hrows : ∀ row ∈ rows, row.1.toList.all Markup.isInert) :
    (∃ shown, p.shownTable ⟨codesOf title, (codesOf label, codesOf value),
      rows.map fun row => (codesOf row.1, row.2)⟩ = .ok shown) ↔
      ∀ row ∈ rows, p.IsReadable row.2 := by
  simp only [shownTable_eq_ok_iff]
  constructor
  · rintro ⟨shown, -, -, hshown⟩ row hrow
    obtain ⟨texts, -, htexts⟩ := Except.exists_of_mapM_eq_ok hshown (List.mem_map_of_mem hrow)
    exact ⟨_, (shownRow_eq_ok_iff.mp htexts).2⟩
  · intro h
    obtain ⟨shown, hshown⟩ :
        ∃ shown, (rows.map fun row => (codesOf row.1, row.2)).mapM p.shownRow = .ok shown := by
      refine Except.exists_mapM_eq_ok_iff.mpr (List.forall_mem_map.mpr fun row hrow => ?_)
      obtain ⟨text, htext⟩ := h row hrow
      exact ⟨(codesOf row.1, text),
        shownRow_eq_ok_iff.mpr ⟨hp.shown_of_inert (hrows row hrow), htext⟩⟩
    exact ⟨⟨codesOf title, (codesOf label, codesOf value), shown⟩, hp.shown_of_inert htitle,
      shownRow_eq_ok_iff.mpr ⟨hp.shown_of_inert hlabel, hp.shown_of_inert hvalue⟩, hshown⟩

/-- The mark before a supporting file means nothing to the console. -/
lemma ReadsMarkup.exists_print_listed_iff (hp : p.ReadsMarkup) (path : String) :
    (∃ out, p.print (codesOf ("  - " ++ path)) = .ok out) ↔
      p.IsReadable (codesOf path) ∧ ∀ text, p.shown (codesOf path) = .ok text →
        p.CanWrite (p.lines (codesOf "  - " ++ text)) := by
  rw [exists_print_iff, codesOf_append, hp.inert "  - " _ (by decide)]
  rcases hshown : p.shown (codesOf path) with e | text <;> simp [Except.map, IsReadable, hshown]

/-- A row of a printed table stands in its lines. -/
lemma ReadsMarkup.showsRow (hp : p.ReadsMarkup) (hroom : p.LaysOut room) {t shown : Table}
    {lines more : List String} (hshown : p.shownTable t = .ok shown)
    (hlines : p.printTable t = .ok lines) (hmore : lines <:+: more) {label : String}
    (hlabel : label.toList.all Markup.isInert) {value : Codes}
    (hrow : (codesOf label, value) ∈ t.rows) : p.ShowsRow room shown label value more := by
  obtain ⟨-, -, hrows⟩ := shownTable_eq_ok_iff.mp hshown
  obtain ⟨texts, hmem, htexts⟩ := Except.exists_of_mapM_eq_ok hrows hrow
  obtain ⟨hfirst, hsecond⟩ := shownRow_eq_ok_iff.mp htexts
  have hname : texts.1 = codesOf label := Except.ok.inj (hfirst.symm.trans (hp.shown_of_inert hlabel))
  have hdrawn : lines.map codesOf = p.draw shown := by
    rw [printTable, hshown, Except.ok_bind] at hlines
    exact Except.map_eq_of_mapM_eq_ok hp.written hlines
  obtain ⟨block, hblock, hstands⟩ := hroom.row shown texts hmem
  rw [hname] at hstands
  rw [← hdrawn] at hblock
  exact ⟨texts.2, block, hp.showsAs hsecond, hblock.trans (hmore.map codesOf), hstands⟩

/-- A text after others that mean nothing to the console stands in the lines that are printed of both. -/
lemma ReadsMarkup.showsLine (hp : p.ReadsMarkup) (hroom : p.LaysOut room) {front : String}
    (hfront : front.toList.all Markup.isInert) {lines more : List String}
    (hlines : p.print (codesOf front ++ s) = .ok lines) (hmore : lines <:+: more) :
    p.ShowsLine room front s more := by
  obtain ⟨text, htext, hwritten⟩ := Except.bind_eq_ok_iff.mp hlines
  rw [hp.inert front s hfront, Except.map_eq_ok_iff] at htext
  obtain ⟨shown, hshown, rfl⟩ := htext
  refine ⟨shown, lines.map codesOf, hp.showsAs hshown, hmore.map codesOf, fun h => ?_⟩
  rw [Except.map_eq_of_mapM_eq_ok hp.written hwritten]
  exact hroom.line _ h

end Printer

namespace Outcome

variable {texts : List Printed}

/-- A run ends well when all that it prints can be printed. -/
lemma ending_print_iff : (print .done texts).ending = .done ↔ ∀ p ∈ texts, ∃ text, p = .ok text := by
  induction texts with
  | nil => simp [print]
  | cons p texts ih => cases p <;> simp [print, ih]

/-- A run that does not end well is stopped by what it cannot print. -/
lemma ending_print_cases : (print .done texts).ending = .done ∨
    ∃ e, (print .done texts).ending = .interrupted (.printing e) := by
  induction texts with
  | nil => exact .inl rfl
  | cons p texts ih =>
    cases p with
    | error e => exact .inr ⟨e, rfl⟩
    | ok text => exact ih

/-- What is printed stands whole in the lines of a run that ends well. -/
lemma infix_lines_print {p : Printed} {text : List String}
    (hdone : (print .done texts).ending = .done) (hp : p = .ok text) (h : p ∈ texts) :
    text <:+: (print .done texts).lines := by
  subst hp
  induction texts with
  | nil => exact absurd h List.not_mem_nil
  | cons p texts ih =>
    obtain ⟨⟨first, rfl⟩, hrest⟩ := List.forall_mem_cons.mp (ending_print_iff.mp hdone)
    rcases List.mem_cons.mp h with heq | h
    · obtain rfl := Except.ok.inj heq
      exact (List.prefix_append _ _).isInfix
    · exact (ih (ending_print_iff.mpr hrest) h).trans (List.suffix_append _ _).isInfix

end Outcome

namespace Name

/-- The console has nothing to do with the name of a package. -/
lemma isInert_of_isPackageName {name : String} (h : isPackageName name.toList) :
    name.toList.all Markup.isInert := by
  refine List.all_eq_true.mpr fun c hc => ?_
  rcases eq_dot_or_isTokenChar h hc with rfl | hc
  · decide
  · have hnat := toNat_of_isTokenChar hc
    have hne : c ≠ '[' ∧ c ≠ '\\' ∧ c ≠ ':' := by
      refine ⟨?_, ?_, ?_⟩ <;> rintro rfl <;> revert hnat <;> decide
    have hcontrol : Markup.isControl c = false := by
      simp only [Markup.isControl, Bool.or_eq_false_iff, decide_eq_false_iff_not]
      omega
    simp [Markup.isInert, Markup.isMark, hne, hcontrol]

end Name

/-- What an option takes has a text. -/
lemma OptionKind.scalarText?_of_admits {kind : OptionKind} {v : Value} (h : kind.admits v) :
    ∃ text, v.scalarText? = some text := by
  by_cases hkind : kind = .flag
  · subst hkind
    cases v with
    | flag b => exact ⟨_, rfl⟩
    | _ => exact absurd h Bool.false_ne_true
  · rcases null_or_text_of_admits h hkind with rfl | ⟨text, rfl⟩
    · exact ⟨_, rfl⟩
    · exact ⟨text, rfl⟩

namespace Layout

variable {l : Layout} {folder : String}

lemma outputPath_eq_some (h : l.outputFolder = some folder) (relative : String) :
    l.outputPath relative = some (l.shownPath relative) := by
  rw [shownPath, outputPath]
  split
  · rw [h, Option.getD_some]
  · rfl

/-- Whether all that is drawn of a layout can be written. -/
structure IsWritable (p : Printer) (l : Layout) : Prop where
  table : ∀ shown, p.shownTable l.folderTable = .ok shown → p.CanWrite (p.draw shown)
  heading : p.CanWrite (p.lines (codesOf "Supporting files:"))
  files : ∀ f ∈ l.supportingFiles, ∀ text, p.shown (codesOf (l.shownPath f.path)) = .ok text →
    p.CanWrite (p.lines (codesOf "  - " ++ text))

end Layout

namespace Context

variable {t : Tools} {around : Surroundings} {s : Selection} {c : Context}

/-- Options that a run is loaded with. -/
lemma exists_resolve_of_load (h : load t around s = .ok c) :
    ∃ o d document, Options.read document around = .ok o ∧ resolve o d = .ok c := by
  simp only [load, Except.bind_eq_ok_iff, Except.mapError_eq_ok_iff] at h
  obtain ⟨o, ho, source, -, h⟩ := h
  obtain ⟨d, hc⟩ : ∃ d, resolve o d = .ok c := by
    split at h
    · simp only [Except.bind_eq_ok_iff, Except.mapError_eq_ok_iff] at h
      exact h.imp fun _ => And.right
    · simp only [Except.bind_eq_ok_iff, Except.mapError_eq_ok_iff] at h
      exact h.imp fun _ => And.right
  simp only [Configuration.load, Except.bind_eq_ok_iff] at ho
  obtain ⟨_, -, ⟨path, v⟩, -, ho⟩ := ho
  unfold Configuration.options at ho
  split at ho
  · next heq =>
    obtain rfl := Except.ok.inj ho
    exact ⟨_, d, _, heq, hc⟩
  all_goals exact absurd ho (by simp)

/-- The options that are handed on unread. -/
lemma unread_of_resolve {o : Options} {d : ApiDescription} (h : resolve o d = .ok c) :
    c.featureCors = o.value .featureCors ∧ c.languageVersion = o.value .languageVersion := by
  simp only [resolve, Except.bind_eq_ok_iff] at h
  obtain ⟨_, -, _, -, _, -, _, -, _, -, _, -, _, -, _, -, _, -, _, -, _, -, _, -, _, -, hc⟩ := h
  obtain rfl := Except.ok.inj hc
  exact ⟨rfl, rfl⟩

lemma value_of_mem_properties {p : String × Value} (hp : p ∈ c.properties) :
    p.2 = .null ∨ (∃ text, p.2 = .text text) ∨ p.2 = c.featureCors ∨ p.2 = c.languageVersion := by
  revert p
  rcases happ : c.appName with - | name <;> simp [properties, happ]

/-- Every property has a text to be shown, but for codes that make none. -/
lemma scalarText?_of_mem_properties (h : load t around s = .ok c) {p : String × Value}
    (hp : p ∈ c.properties) :
    (∃ codes, p.2 = .halves codes) ∨ ∃ text, p.2.scalarText? = some text := by
  obtain ⟨o, d, document, ho, hc⟩ := exists_resolve_of_load h
  obtain ⟨sources, unknown, hsources⟩ := Options.exists_ofSources_of_read ho
  obtain ⟨hcors, hversion⟩ := unread_of_resolve hc
  have hadmits : ∀ f : OptionField, (∃ codes, o.value f = .halves codes) ∨
      ∃ text, (o.value f).scalarText? = some text := fun f =>
    (Options.admits_of_ofSources hsources f).symm.imp_right OptionKind.scalarText?_of_admits
  rcases value_of_mem_properties hp with hv | ⟨text, hv⟩ | hv | hv
  · exact .inr ⟨_, by rw [hv]; rfl⟩
  · exact .inr ⟨text, by rw [hv]; rfl⟩
  · rw [hv, hcors]
    exact hadmits _
  · rw [hv, hversion]
    exact hadmits _

/-- The layout of a run is below a folder, and its package has a proper name. -/
lemma layout_of_load (h : load t around s = .ok c) :
    (∃ folder, c.layout.outputFolder = some folder) ∧
      Name.isPackageName c.layout.packageName.toList := by
  obtain ⟨o, d, _, -, hc⟩ := exists_resolve_of_load h
  obtain ⟨folder, raw, sourceRoot, testsRoot, -, -, hname, hlayout⟩ := layout_of_resolve hc
  rw [hlayout]
  refine ⟨⟨folder, rfl⟩, ?_⟩
  change Name.isPackageName c.packageName.toList
  rw [hname]
  exact Name.isPackageName_packageName raw _

end Context

section Tables

lemma Context.isInert_properties (c : Context) :
    ∀ q ∈ c.properties, q.1.toList.all Markup.isInert := by
  simp only [properties, List.forall_mem_cons]
  decide +kernel

lemma Layout.isInert_folders (l : Layout) :
    ∀ folder ∈ l.folders, folder.1.toList.all Markup.isInert := by
  simp only [folders, List.forall_mem_cons]
  decide +kernel

variable {p : Printer} (hp : p.ReadsMarkup)
include hp

lemma Context.exists_shownTable_iff (c : Context) :
    (∃ shown, p.shownTable c.propertyTable = .ok shown) ↔
      ∀ q ∈ c.properties, p.IsReadable q.2.codes := by
  have hrows : ∀ row ∈ c.properties.map fun q => (q.1, q.2.codes),
      row.1.toList.all Markup.isInert := List.forall_mem_map.mpr c.isInert_properties
  have hshown := @Printer.ReadsMarkup.exists_shownTable_iff _ hp "Resolved properties" "Property" "Value" _
    (by decide) (by decide) (by decide) hrows
  rw [List.map_map, List.forall_mem_map] at hshown
  exact hshown

lemma Layout.exists_shownTable_iff {l : Layout} (h : Name.isPackageName l.packageName.toList) :
    (∃ shown, p.shownTable l.folderTable = .ok shown) ↔
      ∀ folder ∈ l.folders, p.IsReadable (codesOf (l.shownPath folder.2)) := by
  have htitle : ("Layout of " ++ l.packageName).toList.all Markup.isInert := by
    rw [String.toList_append, List.all_append, Name.isInert_of_isPackageName h, Bool.and_true]
    decide
  have hrows : ∀ row ∈ l.folders.map fun folder => (folder.1, codesOf (l.shownPath folder.2)),
      row.1.toList.all Markup.isInert := List.forall_mem_map.mpr l.isInert_folders
  have hshown := @Printer.ReadsMarkup.exists_shownTable_iff _ hp _ "Artifact" "Folder" _ htitle (by decide)
    (by decide) hrows
  rw [List.map_map, List.forall_mem_map] at hshown
  exact hshown

end Tables

namespace Invocation

variable {t : Tools} {room : Printer.Room} {around : Surroundings} {s : Selection} {c : Context}

lemma run_properties (h : Context.load t around s = .ok c) :
    (properties s).run t around = .print .done [t.printer.printTable c.propertyTable] := by
  rw [run, h]

lemma run_layout (h : Context.load t around s = .ok c) :
    (layout s).run t around = .print .done (t.printer.printTable c.layout.folderTable ::
      t.printer.print (codesOf "[dim]Supporting files:[/dim]") ::
      c.layout.supportingFiles.map fun f =>
        t.printer.print (codesOf ("  - " ++ c.layout.shownPath f.path))) := by
  rw [run, h]

section Endings

variable (hp : t.printer.ReadsMarkup) (h : Context.load t around s = .ok c)
include hp h

lemma ending_properties_iff : ((properties s).run t around).ending = .done ↔
    (∀ q ∈ c.properties, t.printer.IsReadable q.2.codes) ∧
      ∀ shown, t.printer.shownTable c.propertyTable = .ok shown →
        t.printer.CanWrite (t.printer.draw shown) := by
  rw [run_properties h, Outcome.ending_print_iff, List.forall_mem_singleton,
    Printer.exists_printTable_iff, c.exists_shownTable_iff hp]

lemma ending_layout_iff : ((layout s).run t around).ending = .done ↔
    ((∀ folder ∈ c.layout.folders,
        t.printer.IsReadable (codesOf (c.layout.shownPath folder.2))) ∧
      ∀ f ∈ c.layout.supportingFiles,
        t.printer.IsReadable (codesOf (c.layout.shownPath f.path))) ∧
      c.layout.IsWritable t.printer := by
  rw [run_layout h, Outcome.ending_print_iff, List.forall_mem_cons, List.forall_mem_cons,
    List.forall_mem_map, Printer.exists_printTable_iff, Printer.exists_print_iff, hp.dim,
    Layout.exists_shownTable_iff hp (Context.layout_of_load h).2]
  simp only [hp.exists_print_listed_iff, Except.ok.injEq, exists_eq_left']
  constructor
  · rintro ⟨⟨hfolders, htable⟩, hheading, hfiles⟩
    exact ⟨⟨hfolders, fun f hf => (hfiles f hf).1⟩, htable, hheading, fun f hf => (hfiles f hf).2⟩
  · rintro ⟨⟨hfolders, hfiles⟩, htable, hheading, hwritten⟩
    exact ⟨⟨hfolders, htable⟩, hheading, fun f hf => ⟨hfiles f hf, hwritten f hf⟩⟩

end Endings

/-- A value that closes what is not open keeps the table of the properties from being printed. -/
lemma run_properties_of_closesNothing (hp : t.printer.ReadsMarkup)
    (h : Context.load t around s = .ok c) {q : String × Value} (hq : q ∈ c.properties)
    {text : String} (htext : q.2.codes = codesOf text) (hcloses : Markup.ClosesNothing text.toList) :
    ∃ e, (properties s).run t around = ⟨[], .interrupted (.printing e)⟩ := by
  rcases hprint : t.printer.printTable c.propertyTable with e | out
  · exact ⟨e, by rw [run_properties h, hprint]; rfl⟩
  · obtain ⟨e, he⟩ := hp.closing text hcloses
    obtain ⟨shown, hshown⟩ :=
      (c.exists_shownTable_iff hp).mp (Printer.exists_printTable_iff.mp ⟨out, hprint⟩).1 q hq
    rw [htext, he] at hshown
    exact absurd hshown (by simp)

/-- A property stands in its row with what shows of its value. -/
lemma showsRow_of_properties (hp : t.printer.ReadsMarkup) (hroom : t.printer.LaysOut room)
    (h : Context.load t around s = .ok c)
    (hdone : ((properties s).run t around).ending = .done) :
    ∃ shown, t.printer.shownTable c.propertyTable = .ok shown ∧ ∀ q ∈ c.properties,
      t.printer.ShowsRow room shown q.1 q.2.codes ((properties s).run t around).lines := by
  rw [run_properties h] at hdone ⊢
  obtain ⟨out, hout⟩ := List.forall_mem_singleton.mp (Outcome.ending_print_iff.mp hdone)
  obtain ⟨shown, hshown⟩ := (Printer.exists_printTable_iff.mp ⟨out, hout⟩).1
  have hlines := Outcome.infix_lines_print hdone hout List.mem_cons_self
  refine ⟨shown, hshown, fun q hq => ?_⟩
  exact hp.showsRow hroom hshown hout hlines (c.isInert_properties q hq)
    (List.mem_map.mpr ⟨q, hq, rfl⟩)

/-- A folder stands in its row, and a supporting file behind its mark, with what shows of the path. -/
lemma shows_of_layout (hp : t.printer.ReadsMarkup) (hroom : t.printer.LaysOut room)
    (h : Context.load t around s = .ok c) (hdone : ((layout s).run t around).ending = .done) :
    (∃ shown, t.printer.shownTable c.layout.folderTable = .ok shown ∧ ∀ folder ∈ c.layout.folders,
      t.printer.ShowsRow room shown folder.1 (codesOf (c.layout.shownPath folder.2))
        ((layout s).run t around).lines) ∧
    ∀ f ∈ c.layout.supportingFiles, t.printer.ShowsLine room "  - "
      (codesOf (c.layout.shownPath f.path)) ((layout s).run t around).lines := by
  rw [run_layout h] at hdone ⊢
  obtain ⟨⟨out, hout⟩, -, hfiles⟩ : _ ∧ _ ∧ _ := by
    simpa only [List.forall_mem_cons] using Outcome.ending_print_iff.mp hdone
  constructor
  · obtain ⟨shown, hshown⟩ := (Printer.exists_printTable_iff.mp ⟨out, hout⟩).1
    have hlines := Outcome.infix_lines_print hdone hout List.mem_cons_self
    refine ⟨shown, hshown, fun folder hfolder => ?_⟩
    exact hp.showsRow hroom hshown hout hlines (c.layout.isInert_folders folder hfolder)
      (List.mem_map.mpr ⟨folder, hfolder, rfl⟩)
  · intro f hf
    have hmem : t.printer.print (codesOf ("  - " ++ c.layout.shownPath f.path)) ∈
        c.layout.supportingFiles.map fun f =>
          t.printer.print (codesOf ("  - " ++ c.layout.shownPath f.path)) :=
      List.mem_map.mpr ⟨f, hf, rfl⟩
    obtain ⟨lines, hlines⟩ := hfiles _ hmem
    have hin := Outcome.infix_lines_print hdone hlines
      (List.mem_cons_of_mem _ (List.mem_cons_of_mem _ hmem))
    rw [codesOf_append] at hlines
    exact hp.showsLine hroom (by decide) hlines hin

/-- The values of a run are printed as markup. A run ends well exactly when all that it prints is
readable and can be written; then what shows of each value or path stands in the lines, which is the
value itself if nothing in it means anything to the console, and is not if there is a tag in it. A tag
that closes what is not open keeps everything from being shown. -/
theorem run_shows (hp : t.printer.ReadsMarkup) (hroom : t.printer.LaysOut room)
    (h : Context.load t around s = .ok c) :
    let p := t.printer
    let properties := (properties s).run t around
    let layout := (layout s).run t around
    let l := c.layout
    (∀ o ∈ [properties, layout], o.ending = .done ∨ ∃ e, o.ending = .interrupted (.printing e)) ∧
    (∀ q ∈ c.properties, (∃ codes, q.2 = .halves codes) ∨ ∃ text, q.2.scalarText? = some text) ∧
    (properties.ending = .done ↔ (∀ q ∈ c.properties, p.IsReadable q.2.codes) ∧
      ∀ shown, p.shownTable c.propertyTable = .ok shown → p.CanWrite (p.draw shown)) ∧
    (properties.ending = .done → ∃ shown, p.shownTable c.propertyTable = .ok shown ∧
      ∀ q ∈ c.properties, p.ShowsRow room shown q.1 q.2.codes properties.lines) ∧
    (∀ q ∈ c.properties, ∀ text, q.2.codes = codesOf text → Markup.ClosesNothing text.toList →
      ∃ e, properties = ⟨[], .interrupted (.printing e)⟩) ∧
    (layout.ending = .done ↔
      (∀ relative ∈ l.folders.map (·.2) ++ l.supportingFiles.map (·.path),
        ∃ path, l.outputPath relative = some path ∧ p.IsReadable (codesOf path)) ∧ l.IsWritable p) ∧
    (layout.ending = .done →
      (∃ shown, p.shownTable l.folderTable = .ok shown ∧ ∀ folder ∈ l.folders,
        ∃ path, l.outputPath folder.2 = some path ∧
          p.ShowsRow room shown folder.1 (codesOf path) layout.lines) ∧
      ∀ f ∈ l.supportingFiles, ∃ path, l.outputPath f.path = some path ∧
        p.ShowsLine room "  - " (codesOf path) layout.lines) ∧
    (∀ relative ∈ l.folders.map (·.2) ++ l.supportingFiles.map (·.path),
      ∀ path, l.outputPath relative = some path → Markup.ClosesNothing path.toList →
        layout.ending ≠ .done) := by
  intro p properties layout l
  obtain ⟨folder, hfolder⟩ := (Context.layout_of_load h).1
  have hpath := Layout.outputPath_eq_some hfolder
  have hlayout : layout.ending = .done ↔
      (∀ relative ∈ l.folders.map (·.2) ++ l.supportingFiles.map (·.path),
        ∃ path, l.outputPath relative = some path ∧ p.IsReadable (codesOf path)) ∧
        l.IsWritable p := by
    refine (ending_layout_iff hp h).trans (and_congr_left' ?_)
    rw [List.forall_mem_append, List.forall_mem_map, List.forall_mem_map]
    simp [l, p, hpath]
  refine ⟨?_, fun q hq => Context.scalarText?_of_mem_properties h hq, ending_properties_iff hp h,
    showsRow_of_properties hp hroom h,
    fun q hq text htext hcloses => run_properties_of_closesNothing hp h hq htext hcloses, hlayout,
    fun hdone => ?_, fun relative hrelative path hsome hcloses hdone => ?_⟩
  · have hprinted : ∀ o ∈ [properties, layout], ∃ texts, o = .print .done texts := by
      simp only [List.forall_mem_cons]
      exact ⟨⟨_, run_properties h⟩, ⟨_, run_layout h⟩, List.forall_mem_nil _⟩
    intro o ho
    obtain ⟨texts, rfl⟩ := hprinted o ho
    exact Outcome.ending_print_cases
  · obtain ⟨⟨shown, hshown, hfolders⟩, hfiles⟩ := shows_of_layout hp hroom h hdone
    exact ⟨⟨shown, hshown, fun folder hf => ⟨_, hpath folder.2, hfolders folder hf⟩⟩,
      fun f hf => ⟨_, hpath f.path, hfiles f hf⟩⟩
  · obtain ⟨other, hother, text, htext⟩ := (hlayout.mp hdone).1 relative hrelative
    obtain rfl := Option.some.inj (hsome.symm.trans hother)
    obtain ⟨e, he⟩ := hp.closing path hcloses
    exact absurd (htext.symm.trans he) (by simp)

/-- What the program reads and prints with, on a console of eighty cells. -/
def usualTools : Tools :=
  ⟨.standard .usual, .standard none Configuration.Depths.usual.yaml, .standard 80⟩

/-- Surroundings in which the application is named like a tag that closes what is not open. -/
def closingName : Surroundings :=
  ⟨[("AIOHTTP_STUBGEN_APP_NAME", "[/x]"), ("AIOHTTP_STUBGEN_OUTPUT_FOLDER", "out"),
    ("AIOHTTP_STUBGEN_PACKAGE_NAME", "p")], ⟨"/w", [("aiohttp-stubgen.yaml", .file [])]⟩⟩

lemma exists_load_closingName : ∃ c, Context.load usualTools closingName ⟨none, none⟩ = .ok c ∧
    c.appName = some "[/x]" ∧
    ∀ relative ∈ c.layout.folders.map (·.2) ++ c.layout.supportingFiles.map (·.path),
      (c.layout.shownPath relative).toList.all Markup.isInert := by
  have hall : (Context.load usualTools closingName ⟨none, none⟩).toOption.any fun c =>
      c.appName = some "[/x]" ∧
      ∀ relative ∈ c.layout.folders.map (·.2) ++ c.layout.supportingFiles.map (·.path),
        (c.layout.shownPath relative).toList.all Markup.isInert := by
    -- The names of variables are folded without the tables of letter case.
    simp only [Context.load, Configuration.load, Configuration.options, Configuration.Parsers.reader,
      Options.read, Options.ofInput, Options.strayNames, Options.unknownNames]
    delta OptionSource.ofInput OptionSource.ofVariables
    simp only [sameName, foldedName_eq, String.toList_append]
    decide +kernel
  rcases hload : Context.load usualTools closingName ⟨none, none⟩ with e | c
  · rw [hload] at hall
    exact absurd hall Bool.false_ne_true
  · rw [hload] at hall
    exact ⟨c, rfl, of_decide_eq_true hall⟩

lemma appName_mem_properties {name : String} (h : c.appName = some name) :
    ("appName", .text name) ∈ c.properties := by
  simp [Context.properties, h]

lemma closesNothing_closing : Markup.ClosesNothing "[/x]".toList :=
  ⟨[], ['x'], [], by simp, by simp, rfl⟩

/-- All that the console draws of a layout can be written. -/
lemma isWritable_usualTools (l : Layout) : l.IsWritable usualTools.printer where
  table _ _ := Printer.exists_mapM_encode_standard _
  heading := Printer.exists_mapM_encode_standard _
  files _ _ _ _ := Printer.exists_mapM_encode_standard _

/-- Such a name stops the table of the properties; the layout does not show it, and shows its paths as
they stand. -/
theorem run_shows_closingName :
    ∃ c, Context.load usualTools closingName ⟨none, none⟩ = .ok c ∧
    ((properties ⟨none, none⟩).run usualTools closingName).ending ≠ .done ∧
    ((layout ⟨none, none⟩).run usualTools closingName).ending = .done ∧
    ∃ shown, usualTools.printer.shownTable c.layout.folderTable = .ok shown ∧
      ∀ folder ∈ c.layout.folders, ∃ path, c.layout.outputPath folder.2 = some path ∧
        usualTools.printer.shown (codesOf path) = .ok (codesOf path) ∧
        usualTools.printer.ShowsRow (.standard 80) shown folder.1 (codesOf path)
          ((layout ⟨none, none⟩).run usualTools closingName).lines := by
  obtain ⟨c, hload, hname, hpaths⟩ := exists_load_closingName
  have hp : usualTools.printer.ReadsMarkup := Printer.readsMarkup_standard 80
  obtain ⟨folder, hfolder⟩ := (Context.layout_of_load hload).1
  have hpath := Layout.outputPath_eq_some hfolder
  obtain ⟨-, -, -, -, hcloses, hlayout, hshown, -⟩ :=
    run_shows hp (Printer.laysOut_standard 80) hload
  have hdone := hlayout.mpr ⟨fun relative hrelative =>
    ⟨_, hpath relative, _, hp.shown_of_inert (hpaths relative hrelative)⟩, isWritable_usualTools _⟩
  obtain ⟨e, hproperties⟩ :=
    hcloses _ (appName_mem_properties hname) "[/x]" rfl closesNothing_closing
  obtain ⟨⟨shown, htable, hfolders⟩, -⟩ := hshown hdone
  refine ⟨c, hload, by rw [hproperties]; simp, hdone, shown, htable, fun folder hf => ?_⟩
  obtain ⟨path, hsome, hrow⟩ := hfolders folder hf
  obtain rfl := Option.some.inj ((hpath folder.2).symm.trans hsome)
  exact ⟨_, hsome, hp.shown_of_inert (hpaths _ (List.mem_append_left _ (List.mem_map_of_mem hf))), hrow⟩

/-- With such a name nothing is shown of any property, though configuration and description are
accepted. -/
theorem run_properties_closingName :
    ∃ c e, Context.load usualTools closingName ⟨none, none⟩ = .ok c ∧
      ("appName", .text "[/x]") ∈ c.properties ∧
      (properties ⟨none, none⟩).run usualTools closingName = ⟨[], .interrupted (.printing e)⟩ := by
  obtain ⟨c, hload, hname, -⟩ := exists_load_closingName
  have hmem := appName_mem_properties hname
  have htext : (Value.text "[/x]").codes = codesOf "[/x]" := rfl
  obtain ⟨e, he⟩ := run_properties_of_closesNothing (Printer.readsMarkup_standard 80) hload hmem htext
    closesNothing_closing
  exact ⟨c, e, hload, hmem, he⟩

end Invocation

end StubPlan
