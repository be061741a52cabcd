import StubPlan.Proofs.Generation.Information
import StubPlan.Proofs.Layout.PackageRoot
import StubPlan.Proofs.Name.Settled

/-! The package that a single dot stands for is the output folder. The folder itself is that package
only when its name is a token; any other name is made into a package below the folder. -/
namespace StubPlan

namespace Name

/-- A package that is named after a text bears that text as its one token exactly when it is one. -/
lemma packageName_flat_iff (name : String) :
    '.' ∉ (packageName (some name) none).toList ∧ name = packageName (some name) none ↔
      isToken name.toList := by
  constructor
  · rintro ⟨hdot, hname⟩
    have hpackage := isPackageName_packageName (some name) none
    rw [← hname] at hdot hpackage
    exact isToken_of_isPackageName hpackage hdot
  · intro h
    have hself := packageName_eq_self (isPackageName_of_isToken h) none
    exact ⟨by rw [hself]; exact dot_not_mem_of_isToken h, hself.symm⟩

end Name

namespace Context

variable {o : Options} {d : ApiDescription} {c : Context}

/-- The package of a run is made of the options' text for it and the last segment of the output
folder, and the layout is that of this package. -/
lemma layout_of_resolve (h : resolve o d = .ok c) :
    ∃ folder raw sourceRoot testsRoot, o.outputFolder = .ok folder ∧ o.packageText = .ok raw ∧
      c.packageName = Name.packageName raw (some (Path.lastSegment folder)) ∧
      c.layout = Layout.resolve c.packageName (some folder) sourceRoot testsRoot
        (some c.handlerPackage) := by
  simp only [resolve, Except.bind_eq_ok_iff] at h
  obtain ⟨folder, hfolder, raw, hraw, _, -, _, -, _, -, _, -, sourceRoot, -, testsRoot, -, _, -, _, -,
    _, -, _, -, _, -, hc⟩ := h
  obtain rfl := Except.ok.inj hc
  exact ⟨folder, raw, sourceRoot, testsRoot, hfolder, hraw, rfl, rfl⟩

/-- With a single dot for its name a package is named after the output folder. The layout is flattened
exactly when the name of the folder is a token, which then is the name of the package. -/
theorem resolve_dot {o : Options} (h : o.IsValid) (hname : o.value .packageName = .text ".")
    {folder : String} (hfolder : o.value .outputFolder = .text folder) (d : ApiDescription) :
    let name := Path.lastSegment folder
    ∃ c, resolve o d = .ok c ∧ c.layout.packageName = c.packageName ∧
      (c.layout.flatten ↔ Name.isToken name.toList) ∧
      (c.layout.packageRootDir = "" ↔ Name.isToken name.toList) ∧
      (Name.isToken name.toList → c.packageName = name) ∧
      c.packageName = Name.packageName (some name) none ∧
      (name = "" → c.packageName = Name.defaultPackage) := by
  intro name
  obtain ⟨c, hc, htells⟩ := exists_tells h d
  obtain ⟨folder', raw, sourceRoot, testsRoot, hfolder', hraw, hpackage, hlayout⟩ :=
    layout_of_resolve hc
  obtain rfl : folder = folder' := by
    rw [Options.outputFolder, hfolder] at hfolder'
    exact Except.ok.inj hfolder'
  obtain rfl : some "." = raw := by
    have hdot : (Value.text ".").isEmpty = false := rfl
    rw [Options.packageText, Options.text?, hname, hdot] at hraw
    exact Except.ok.inj hraw
  rw [Name.packageName_dot] at hpackage
  have hflatten : c.layout.flatten ↔ Name.isToken name.toList := by
    rw [hlayout, Layout.flatten_resolve_iff, hpackage]
    exact Name.packageName_flat_iff name
  refine ⟨c, hc, ?_, hflatten, ?_, fun htoken => ?_, hpackage, fun hempty => ?_⟩
  · rw [hlayout]
    rfl
  · rw [← hflatten, hlayout]
    exact Layout.packageRootDir_resolve_eq_empty_iff _ _ _ htells.isPackageName
  · rw [hpackage, Name.packageName_eq_self (Name.isPackageName_of_isToken htoken)]
  · rw [hpackage]
    change Name.packageName (some name) none = _
    rw [hempty]
    decide

/-- The folder `pet_store` is a package of its own name, under any directory. -/
theorem resolve_dot_pet_store :
    let o := (Options.unset.set .packageName (.text ".")).set .outputFolder (.text "out/pet_store/")
    o.IsValid ∧ o.value .packageName = .text "." ∧ o.value .outputFolder = .text "out/pet_store/" ∧
      Name.isToken "pet_store".toList ∧
      ∃ c, resolve o .empty = .ok c ∧ c.packageName = "pet_store" ∧ c.layout.flatten = true := by
  intro o
  have hvalid : o.IsValid := (Options.isValid_unset.set rfl).set rfl
  have hfolder : o.value .outputFolder = .text "out/pet_store/" := rfl
  have hname : Path.lastSegment "out/pet_store/" = "pet_store" := by decide
  have htoken : Name.isToken "pet_store".toList := by decide
  obtain ⟨c, hc, -, hflatten, -, hpackage, -⟩ :=
    resolve_dot hvalid rfl hfolder .empty
  rw [hname] at hflatten hpackage
  exact ⟨hvalid, rfl, hfolder, htoken, c, hc, hpackage htoken, hflatten.mpr htoken⟩

end Context
end StubPlan
