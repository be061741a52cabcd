import StubPlan.Proofs.Description.Checked
import StubPlan.Proofs.Options.Keeps
import StubPlan.Proofs.Options.Named

/-! Options read again from their own values. They name every option and hold no directives, so that
nothing but themselves is looked at, and each option takes its own value again. -/
namespace StubPlan
open Text

section Sources

/-! Only a document gives bytes. -/

variable {f : OptionField} {o : Options} {document v : Value} {s : Surroundings}

lemma OptionSource.ofVariables_ne_bytes {d : Directives} {front : String}
    {settings : List (String × Option String)} {bs : List UInt8} :
    OptionSource.ofVariables d front settings f ≠ some (.bytes bs) := by
  simp only [ofVariables, Option.bind_eq_bind, ne_eq, Option.bind_eq_some_iff, not_exists, not_and]
  intro e he t ht
  split <;> simp

lemma OptionSource.ofArguments_ne_bytes {words : List String} {bs : List UInt8} :
    OptionSource.ofArguments words f ≠ some (.bytes bs) := by
  induction words with
  | nil => simp [ofArguments]
  | cons word rest ih =>
    intro h
    unfold ofArguments at h
    extract_lets value found at h
    obtain h | ⟨-, h⟩ := Option.or_eq_some_iff.mp h
    · exact ih h
    · have hvalue : ∀ t, value t ≠ .bytes bs := by
        intro t
        simp only [value]
        split <;> simp
      simp only [found] at h
      split at h
      · exact hvalue _ (Option.some.inj h)
      · split at h
        · exact hvalue _ (Option.some.inj h)
        · exact absurd h (by simp)
      · exact absurd h (by simp)

lemma Surroundings.exists_text_of_valueIn? {caseSensitive : Bool} {folder name : String}
    (h : s.valueIn? caseSensitive folder name = .ok (some v)) : ∃ t, v = .text t := by
  unfold valueIn? at h
  split at h
  · exact absurd h (by simp)
  · split at h
    · split at h
      · exact ⟨_, (Option.some.inj (Except.ok.inj h)).symm⟩
      · exact absurd h (by simp)
    · exact absurd h (by simp)

lemma Surroundings.exists_text_of_folderValues {d : Directives} {front : String}
    {found : List (OptionField × Value)} (h : s.folderValues d front = .ok found)
    {e : OptionField × Value} (he : e ∈ found) : ∃ t, e.2 = .text t := by
  rw [folderValues, Except.bind_eq_ok_iff] at h
  obtain ⟨folders, -, h⟩ := h
  dsimp only at h
  split at h
  · exact absurd h (by simp)
  · obtain ⟨given, hgiven, h⟩ := Except.bind_eq_ok_iff.mp h
    obtain rfl := Except.ok.inj h
    obtain ⟨f, -, hf⟩ := Except.exists_of_mem_of_mapM_eq_ok hgiven (by simpa using he)
    obtain ⟨values, hvalues, hf⟩ := Except.bind_eq_ok_iff.mp hf
    obtain ⟨w, hw, rfl⟩ := Option.map_eq_some_iff.mp (Except.ok.inj hf)
    obtain ⟨held, hheld, rfl⟩ := List.exists_of_findSome?_eq_some hw
    obtain ⟨folder, -, hfolder⟩ := Except.exists_of_mem_of_mapM_eq_ok hvalues hheld
    exact exists_text_of_valueIn? hfolder

namespace Options

def given? (document : Value) (f : OptionField) : Option Value :=
  match document with
  | .map entries => (namedEntries? entries).bind fun input =>
    OptionSource.ofInput (Directives.remaining input) f
  | _ => none

/-- The value of an option is its default, or is taken from a value that a source gives. -/
lemma value_cases_of_ofSources {sources : List OptionSource} {unknown : List String}
    (h : ofSources sources unknown = .ok o) (f : OptionField) : o.value f = f.default ∨
      ∃ given, sources.findSome? (· f) = some given ∧ f.read given = .ok (o.value f) := by
  unfold ofSources at h
  split at h
  · obtain rfl := Except.ok.inj h
    rcases hf : f.resolve sources with faults | v
    · simp [hf]
    · simp only [hf]
      unfold OptionField.resolve at hf
      split at hf
      · next given hgiven => exact .inr ⟨given, hgiven, Checked.under_eq_ok_iff.mp hf⟩
      · exact .inl (Except.ok.inj hf).symm
  · exact absurd h (by simp)

lemma value_cases_of_read (h : Options.read document s = .ok o) (f : OptionField) :
    o.value f = f.default ∨ ∃ given, f.read given = .ok (o.value f) ∧
      ∀ bs, given = .bytes bs → given? document f = some given := by
  unfold Options.read at h
  split at h
  · next entries =>
    split at h
    · next input hinput =>
      split at h
      · have hnone := value_cases_of_ofSources (ofSources_of_ofNamedSources h) f
        exact .inl (hnone.resolve_right (by simp))
      · simp only [ofInput, Except.bind_eq_ok_iff, Except.mapError_eq_ok_iff] at h
        obtain ⟨d, -, assigned, -, front, -, folders, hfolders, h⟩ := h
        refine (value_cases_of_ofSources h f).imp_right ?_
        rintro ⟨given, hgiven, hread⟩
        refine ⟨given, hread, ?_⟩
        rintro bs rfl
        -- of the five sources the document is the only one that has bytes to give
        obtain ⟨source, hsource, hbytes⟩ := List.exists_of_findSome?_eq_some hgiven
        simp only [List.mem_cons, List.not_mem_nil, or_false] at hsource
        obtain rfl | rfl | rfl | rfl | rfl := hsource
        · exact absurd hbytes OptionSource.ofArguments_ne_bytes
        · simpa [given?, hinput] using hbytes
        · exact absurd hbytes OptionSource.ofVariables_ne_bytes
        · exact absurd hbytes OptionSource.ofVariables_ne_bytes
        · obtain ⟨e, he, hvalue⟩ := Option.map_eq_some_iff.mp hbytes
          obtain ⟨t, ht⟩ := Surroundings.exists_text_of_folderValues hfolders
            (List.mem_of_find?_eq_some he)
          exact absurd (ht.symm.trans hvalue) (by simp)
    · exact absurd h (by simp)
  · exact absurd h (by simp)

end Options

end Sources

section Entries

/-! The options themselves are a document that names all of them and holds no directives, so that
nothing else is looked at. -/

variable {o : Options} {s : Surroundings} {input : List (String × Value)}

namespace OptionField

lemma ofName?_name (f : OptionField) : ofName? f.name = some f := by
  cases f <;> rfl

end OptionField

namespace Options

def named (o : Options) : List (String × Value) := OptionField.all.map fun f => (f.name, o.value f)

lemma namedEntries?_entries (o : Options) : namedEntries? o.entries = some o.named := rfl

lemma ofInput_named (o : Options) (f : OptionField) :
    OptionSource.ofInput o.named f = some (o.value f) := by
  have hname : OptionField.all.find? (fun g => decide (g.name = f.name)) = some f := f.ofName?_name
  have hfind : o.named.find? (fun e => decide (e.1 = f.name)) = some (f.name, o.value f) := by
    rw [named, List.find?_map]
    exact congrArg (Option.map fun g => (g.name, o.value g)) hname
  rw [OptionSource.ofInput, hfind]
  rfl

/-- A document that gives options under their names and nothing else has what the options take. -/
lemma read_of_names {entries : List (Value × Value)} {value : OptionField → Value}
    (hinput : namedEntries? entries = some input)
    (hnames : ∀ e ∈ input, ∃ f : OptionField, e.1 = f.name)
    (hresolve : ∀ f : OptionField, f.resolve (usualSources input s) = .ok (value f)) :
    Options.read (.map entries) s = .ok ⟨value⟩ := by
  have hknown : ∀ e ∈ input, ∃ f : OptionField, foldedName e.1 = f.name.toList := by
    intro e he
    obtain ⟨f, hf⟩ := hnames e he
    exact ⟨f, hf ▸ f.foldedName_name⟩
  rw [read_of_known hinput hknown, ofSources_eq_ok hresolve]
  rfl

lemma read_entries {value : OptionField → Value}
    (h : ∀ f : OptionField, f.read (o.value f) = .ok (value f)) (s : Surroundings) :
    Options.read (.map o.entries) s = .ok ⟨value⟩ := by
  have hnames : ∀ e ∈ o.named, ∃ f : OptionField, e.1 = f.name := by
    intro e he
    obtain ⟨f, -, rfl⟩ := List.mem_map.mp he
    exact ⟨f, rfl⟩
  have hresolve : ∀ f : OptionField, f.resolve (usualSources o.named s) = .ok (value f) := by
    intro f
    rw [OptionField.resolve, usualSources, List.findSome?_cons, OptionSource.ofArguments,
      List.findSome?_cons, ofInput_named]
    simp only [h, Checked.under_ok]
  exact read_of_names o.namedEntries?_entries hnames hresolve

end Options

end Entries

namespace Options

variable {o : Options} {document : Value} {s : Surroundings}

/-- The options without the blanks that they would lose. -/
def settled (o : Options) : Options := ⟨fun f => f.normalize (o.value f)⟩

lemma settled_eq_self_iff : o.settled = o ↔ ∀ f, f.normalize (o.value f) = o.value f := by
  constructor
  · intro h f
    exact congrFun (congrArg Options.value h) f
  · intro h
    exact congrArg Options.mk (funext h)

lemma read_entries_of_read (h : Options.read document s = .ok o) (t : Surroundings) :
    Options.read (.map o.entries) t = .ok o.settled := by
  refine read_entries (fun f => ?_) t
  obtain hdefault | ⟨given, hgiven, -⟩ := value_cases_of_read h f
  · rw [hdefault, f.normalize_default, f.read_default]
  · exact OptionField.read_of_read hgiven

/-- Options read again from their own values, in whatever surroundings, are the options without the
blanks that they would lose. They are the same options exactly when every text that the document gives
as bytes is one that its option keeps. -/
theorem read_entries_iff (h : Options.read document s = .ok o) (t : Surroundings) :
    Options.read (.map o.entries) t = .ok o.settled ∧
      (Options.read (.map o.entries) t = .ok o ↔
        ∀ (f : OptionField) (bs : List UInt8) (text : String), given? document f = some (.bytes bs) →
          Checked.textOfBytes bs = .ok text → o.value f = .text text → f.Keeps text) := by
  have hagain := read_entries_of_read h t
  refine ⟨hagain, ?_⟩
  rw [hagain, Except.ok.injEq, settled_eq_self_iff]
  constructor
  · intro hsettled f bs text _ _ htext
    have hf := hsettled f
    rw [htext] at hf
    exact OptionField.normalize_text_eq_self_iff.mp hf
  · intro hkeeps f
    obtain hdefault | ⟨given, hgiven, hdocument⟩ := value_cases_of_read h f
    · rw [hdefault, f.normalize_default]
    · obtain hsettled | ⟨bs, text, rfl, hbytes, htext⟩ :=
        OptionField.normalize_eq_self_of_read hgiven
      · exact hsettled
      · rw [htext]
        exact OptionField.normalize_text_eq_self_iff.mpr
          (hkeeps f bs text (hdocument bs rfl) hbytes htext)

/-- A port that is given with blanks is read without them, and again whatever the environment says. -/
theorem read_entries_iff_port : ∃ o, Options.read (.map [(.text "server_port", .text " 9000 ")])
    ⟨[], ⟨"/w", []⟩⟩ = .ok o ∧ Options.read (.map o.entries)
      ⟨[("AIOHTTP_STUBGEN_SERVER_PORT", "80")], ⟨"/w", []⟩⟩ = .ok o := by
  have hport : Options.read (.map [(.text "server_port", .text " 9000 ")]) ⟨[], ⟨"/w", []⟩⟩ =
      .ok (unset.set .serverPort (.text "9000")) := by
    have hinput : namedEntries? [(.text "server_port", .text " 9000 ")] =
      some [("server_port", .text " 9000 ")] := rfl
    refine read_of_names hinput ?_ ?_
    · exact List.forall_mem_singleton.mpr ⟨.serverPort, rfl⟩
    · intro f
      cases f <;> rfl
  refine ⟨_, hport, (read_entries_iff hport _).2.mpr ?_⟩
  intro f bs text hgiven
  cases f <;> cases hgiven

/-- Bytes that encode a blank are a blank folder for tests at first, and none when read again. -/
theorem read_entries_ne_blank : ∃ o, Options.read (.map [(.text "tests_root", .bytes [32])])
    ⟨[], ⟨"/w", []⟩⟩ = .ok o ∧ Options.read (.map o.entries) ⟨[], ⟨"/w", []⟩⟩ ≠ .ok o := by
  have hblank : Options.read (.map [(.text "tests_root", .bytes [32])]) ⟨[], ⟨"/w", []⟩⟩ =
      .ok (unset.set .testsRoot (.text " ")) := by
    have hinput : namedEntries? [(.text "tests_root", .bytes [32])] =
      some [("tests_root", .bytes [32])] := rfl
    refine read_of_names hinput ?_ ?_
    · exact List.forall_mem_singleton.mpr ⟨.testsRoot, rfl⟩
    · intro f
      cases f <;> rfl
  refine ⟨_, hblank, fun hagain => ?_⟩
  rw [read_entries_of_read hblank, Except.ok.injEq, settled_eq_self_iff] at hagain
  have htests : Value.text "tests" = .text " " := hagain .testsRoot
  exact absurd htests (by simp)

end Options
end StubPlan
