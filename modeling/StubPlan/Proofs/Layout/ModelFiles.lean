import StubPlan.Proofs.Layout.Handlers
import StubPlan.Proofs.Layout.SupportingFiles
import StubPlan.Proofs.Name.ClassName

/-! The files of models. Each bears the snake case of its class, so that two models have one file when
their classes have one snake case, and a model takes the place of a supporting file when its class has
the name of that file in snake case. -/
namespace StubPlan.Layout
open StubPlan.Path

/-- The path of a model's file, relative to the output folder. -/
def modelPath (l : Layout) (classname : String) : String :=
  join [some l.schemasDir, some (modelFilename classname)]

lemma not_isBlank_modelFilename (classname : String) :
    Text.isBlank (modelFilename classname) = false := by
  rw [modelFilename, Text.isBlank_append]
  exact Bool.and_eq_false_imp.mpr fun _ => by decide

lemma modelFilename_inj {a b : String} :
    modelFilename a = modelFilename b ↔ Name.snakeCase a = Name.snakeCase b := by
  simp [modelFilename]

lemma toList_snakeCase (word : String) :
    (Name.snakeCase word).toList = Name.snakeChars word.toList := String.toList_ofList

section Classes

variable {a b : String}

lemma slash_not_mem_modelFilename (h : Name.isClassName a.toList) :
    '/' ∉ (modelFilename a).toList := by
  have hslash : '/' ∉ ".py".toList := by decide
  rw [modelFilename, String.toList_append, toList_snakeCase, List.mem_append, not_or]
  refine ⟨fun hmem => ?_, hslash⟩
  exact Name.not_mem_of_isClassName h (c := '/') (by decide) (Name.mem_snakeChars hmem (by decide))

/-- No class has the snake case of a module's initialization, which begins with an underscore. -/
lemma snakeCase_ne_init (h : Name.isClassName a.toList) : Name.snakeCase a ≠ "__init__" := by
  intro heq
  have hhead := Name.head?_snakeChars h
  rw [← toList_snakeCase, heq] at hhead
  obtain ⟨c, hc, hlower⟩ := Option.map_eq_some_iff.mp hhead.symm
  have hcapital : Name.isCapital c := by
    cases hlist : a.toList with
    | nil => simp [hlist] at hc
    | cons first rest =>
      rw [hlist] at h hc
      obtain rfl := Option.some.inj hc
      exact (Bool.and_eq_true_iff.mp h).1
  have hback := Name.toUpper_toLower hcapital
  rw [hlower] at hback
  rw [← hback] at hcapital
  exact absurd hcapital (by decide)

lemma snakeCase_inj (ha : Name.isPascalCase a.toList) (hb : Name.isPascalCase b.toList) :
    Name.snakeCase a = Name.snakeCase b ↔ a = b := by
  rw [← String.toList_inj, toList_snakeCase, toList_snakeCase, Name.snakeChars_inj ha hb,
    String.toList_inj]

end Classes

variable {l : Layout}

/-- Models of a layout have one file exactly when their classes have one snake case. -/
lemma IsRooted.modelPath_inj (h : l.IsRooted) {a b : String} :
    l.modelPath a = l.modelPath b ↔ Name.snakeCase a = Name.snakeCase b := by
  have hdir : IsProper l.schemasDir := by
    rw [h.schemas]
    exact isProper_join _
  rw [modelPath, modelPath, join_left_inj hdir, modelFilename_inj]
  simp [not_isBlank_modelFilename]

/-- The supporting files in the directory of the models, when no other directory is that one. -/
lemma destination_of_folder_eq_schemasDir (h : l.directories.Nodup) {f : SupportingFile}
    (hf : f ∈ l.supportingFiles) (hfolder : f.folder = l.schemasDir) :
    f.destination = "base_model.py" ∨ f.destination = "__init__.py" := by
  simp only [directories, List.nodup_cons, List.mem_cons, List.not_mem_nil, or_false, not_or] at h
  obtain ⟨⟨-, hroot, -, -⟩, ⟨hcontrollers, -, -⟩, ⟨hhandlers, htests⟩, -, -⟩ := h
  simp only [supportingFiles, List.mem_cons, List.not_mem_nil, or_false] at hf
  rcases hf with rfl | rfl | rfl | rfl | rfl | rfl | rfl | rfl | rfl | rfl | rfl
  · exact absurd hfolder hroot
  · exact absurd hfolder hroot
  · exact absurd hfolder hroot
  · exact absurd hfolder hroot
  · exact absurd hfolder hcontrollers
  · exact absurd hfolder.symm hhandlers
  · exact absurd hfolder.symm hhandlers
  · exact .inl rfl
  · exact .inr rfl
  · exact absurd hfolder.symm htests
  · exact absurd hfolder.symm htests

/-- The file of a model is a supporting file exactly when it is that of the models' base. -/
lemma IsRooted.modelPath_mem_iff (h : l.IsRooted) (hnodup : l.directories.Nodup) {a : String}
    (ha : Name.isClassName a.toList) :
    l.modelPath a ∈ l.supportingFiles.map SupportingFile.path ↔
      Name.snakeCase a = "base_model" := by
  have hbase : "base_model.py" = "base_model" ++ ".py" := by decide
  have hinit : "__init__.py" = "__init__" ++ ".py" := by decide
  constructor
  · intro hmem
    obtain ⟨f, hf, hpath⟩ := List.mem_map.mp hmem
    obtain ⟨hblank, hslash⟩ := destination_plain hf
    have hschemas : IsProper l.schemasDir := h.isProper (by simp [directories])
    obtain ⟨hfolder, hname⟩ := (join_inj (h.isProper (folder_mem_directories hf)) hschemas hblank
      (not_isBlank_modelFilename a) hslash (slash_not_mem_modelFilename ha)).mp hpath
    rcases destination_of_folder_eq_schemasDir hnodup hf hfolder with hdest | hdest
    · rw [hname, modelFilename, hbase] at hdest
      exact (String.append_left_inj ".py").mp hdest
    · rw [hname, modelFilename, hinit] at hdest
      exact absurd ((String.append_left_inj ".py").mp hdest) (snakeCase_ne_init ha)
  · intro hsnake
    refine List.mem_map.mpr ⟨⟨"base_model.mustache", l.schemasDir, "base_model.py"⟩, ?_, ?_⟩
    · simp [supportingFiles]
    · rw [modelPath, modelFilename, hsnake]
      rfl

/-- Where tests and handlers are not named, the five directories are five. -/
lemma nodup_directories_of_defaults {package : String} (hp : Name.isPackageName package.toList)
    (outputFolder sourceRoot : Option String) :
    (resolve package outputFolder sourceRoot (some defaultTestsRoot) none).directories.Nodup := by
  have hrooted := isRooted_resolve package outputFolder sourceRoot (some defaultTestsRoot) none
  rw [hrooted.nodup_directories_iff]
  have hpackage : (resolve package outputFolder sourceRoot (some defaultTestsRoot) none).packageName =
      package := rfl
  have htests : (resolve package outputFolder sourceRoot (some defaultTestsRoot) none).testsRoot =
      "tests" := by
    change normalizeRelative (some defaultTestsRoot) = "tests"
    decide
  have hhandlers : relativePackageDir package (some (package ++ "." ++ "handlers")) = "handlers" := by
    rcases relativePackageDir_cases package (isPackageName_defaultHandlers hp) with
      ⟨hself, -⟩ | ⟨rest, hrest, -, hdir⟩ | ⟨-, hbegins, -⟩
    · exact absurd hself.symm (ne_append_dot package "handlers")
    · obtain rfl : "handlers" = rest := (String.append_right_inj (package ++ ".")).mp hrest
      rw [hdir]
      decide
    · exact absurd (Text.beginsWith_append (package ++ ".") "handlers") hbegins
  rw [htests, hpackage,
    handlerPackage_of_present?_eq_none hp rfl outputFolder sourceRoot (some defaultTestsRoot),
    hhandlers]
  decide

/-- In a layout with the usual tests and handlers, the files of models are as many as their classes
have snake cases, and one of them is a supporting file exactly when a class is the base of models in
snake case. Neither happens to classes whose capitals are apart, unless one is `BaseModel`. -/
theorem nodup_modelPaths_iff (raw fallback outputFolder sourceRoot : Option String)
    {classes : List String} (hnodup : classes.Nodup)
    (hclasses : ∀ a ∈ classes, Name.isClassName a.toList) :
    let l := resolve (Name.packageName raw fallback) outputFolder sourceRoot
      (some defaultTestsRoot) none
    let supporting := l.supportingFiles.map SupportingFile.path
    ((classes.map l.modelPath).Nodup ↔ (classes.map Name.snakeCase).Nodup) ∧
    ((∀ a ∈ classes, l.modelPath a ∉ supporting) ↔ "base_model" ∉ classes.map Name.snakeCase) ∧
    ((∀ a ∈ classes, Name.isPascalCase a.toList) → (classes.map l.modelPath).Nodup ∧
      ∀ a ∈ classes, (l.modelPath a ∈ supporting ↔ a = "BaseModel")) := by
  intro l supporting
  have hp := Name.isPackageName_packageName raw fallback
  have hrooted : l.IsRooted := isRooted_resolve _ outputFolder sourceRoot _ none
  have hdirectories : l.directories.Nodup := nodup_directories_of_defaults hp outputFolder sourceRoot
  have hmem : ∀ a ∈ classes, (l.modelPath a ∈ supporting ↔ Name.snakeCase a = "base_model") :=
    fun a ha => hrooted.modelPath_mem_iff hdirectories (hclasses a ha)
  have hnames : (classes.map l.modelPath).Nodup ↔ (classes.map Name.snakeCase).Nodup := by
    rw [List.nodup_map_iff_inj_on hnodup, List.nodup_map_iff_inj_on hnodup]
    simp only [hrooted.modelPath_inj]
  refine ⟨hnames, ?_, fun hpascal => ⟨hnames.mpr ?_, fun a ha => (hmem a ha).trans ?_⟩⟩
  · rw [List.mem_map, not_exists]
    exact forall_congr' fun a => by rw [not_and]; exact forall_congr' fun ha => not_congr (hmem a ha)
  · refine hnodup.map_on fun a ha b hb => ?_
    exact (snakeCase_inj (hpascal a ha) (hpascal b hb)).mp
  · have hbase : Name.snakeCase "BaseModel" = "base_model" := by decide
    rw [← hbase]
    exact snakeCase_inj (hpascal a ha) (by decide)

/-- Two classes whose capitals are apart, beside each other and the base of models. -/
theorem nodup_modelPaths_pets :
    ["PetStore", "Pet2Store"].Nodup ∧
    (∀ a ∈ ["PetStore", "Pet2Store"], Name.isClassName a.toList) ∧
    (∀ a ∈ ["PetStore", "Pet2Store"], Name.isPascalCase a.toList) ∧
    let l := resolve (Name.packageName (some "shop") none) (some "out") none
      (some defaultTestsRoot) none
    (["PetStore", "Pet2Store"].map l.modelPath).Nodup ∧
      l.modelPath "PetStore" ∉ l.supportingFiles.map SupportingFile.path := by
  have hnodup : ["PetStore", "Pet2Store"].Nodup := by decide
  have hclasses : ∀ a ∈ ["PetStore", "Pet2Store"], Name.isClassName a.toList := by decide
  have hpascal : ∀ a ∈ ["PetStore", "Pet2Store"], Name.isPascalCase a.toList := by decide
  obtain ⟨-, -, hboth⟩ := nodup_modelPaths_iff (some "shop") none (some "out") none hnodup hclasses
  obtain ⟨hpaths, hbase⟩ := hboth hpascal
  exact ⟨hnodup, hclasses, hpascal, hpaths, fun h => absurd ((hbase _ (by simp)).mp h) (by decide)⟩

/-- Two classes with one file, and a class whose file is that of the base of models. -/
theorem not_nodup_modelPaths_server :
    let l := resolve (Name.packageName (some "shop") none) (some "out") none
      (some defaultTestsRoot) none
    ["HTTPServer", "HttpServer"].Nodup ∧
    (∀ a ∈ ["HTTPServer", "HttpServer", "BaseModel"], Name.isClassName a.toList) ∧
    ¬ (["HTTPServer", "HttpServer"].map l.modelPath).Nodup ∧
    l.modelPath "BaseModel" ∈ l.supportingFiles.map SupportingFile.path := by
  decide +kernel

end StubPlan.Layout
