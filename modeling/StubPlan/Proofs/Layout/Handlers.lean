import StubPlan.Proofs.Layout.Directory

/-! Where the handlers of a project live. Statements with two dots, which controllers and handlers
share, are read from the directory above their own; that is the root package for controllers, and
for handlers when their package is one token away from it. -/
namespace StubPlan

namespace Path

/-- The directory of a name beside a directory, as `..name` denotes it in the modules there. -/
def beside? (dir name : String) : Option String :=
  (parent? dir).map fun up => join [some up, some name]

/-- A path is joined in one step or in two. -/
lemma join_slash {dir a b : String} (hdir : IsProper dir) (ha : Text.isBlank a = false)
    (hb : Text.isBlank b = false) :
    join [some dir, some (a ++ "/" ++ b)] = join [some (join [some dir, some a]), some b] := by
  have hab : Text.isBlank (a ++ "/" ++ b) = false := by simp [ha]
  rcases hdir.cases with rfl | hd
  · rw [join_root hab, join_root ha, join_below ha hb]
  · have hda : Text.isBlank (dir ++ "/" ++ a) = false := by simp [hd]
    rw [join_below hd hab, join_below hd ha, join_below hda hb]
    simp only [String.append_assoc]

end Path

namespace Layout
open StubPlan.Path

/-- A package without dots is its own path, and the directory above that is the one above it. -/
lemma parent?_packagePath_of_not_mem {dir package : String} (hdir : IsProper dir)
    (hp : Name.isPackageName package.toList) (hdot : '.' ∉ package.toList) :
    parent? (join [some dir, some (packagePath package)]) = some dir := by
  have hblank := not_isBlank_packagePath hp
  rw [packagePath_of_not_mem hdot] at hblank ⊢
  exact parent?_join hdir hblank (Name.slash_not_mem_of_isPackageName hp)

/-- The last token of a package is a directory in that of the tokens before it. -/
lemma parent?_packagePath_append {dir a b : String} (hdir : IsProper dir)
    (ha : Name.isPackageName a.toList) (hb : Name.isPackageName b.toList) (hdot : '.' ∉ b.toList) :
    parent? (join [some dir, some (packagePath (a ++ "." ++ b))]) =
      some (join [some dir, some (packagePath a)]) := by
  have hpath : packagePath (a ++ "." ++ b) = packagePath a ++ "/" ++ packagePath b := by
    rw [packagePath_append, packagePath_append]
    rfl
  rw [hpath, join_slash hdir (not_isBlank_packagePath ha) (not_isBlank_packagePath hb)]
  exact parent?_packagePath_of_not_mem (isProper_join _) hb hdot

/-- Below a directory, the directory of a package is held by that directory exactly when the package
is a single token. -/
lemma exists_parent?_packagePath {dir package : String} (hdir : IsProper dir)
    (hp : Name.isPackageName package.toList) :
    ∃ up, IsProper up ∧ parent? (join [some dir, some (packagePath package)]) = some up ∧
      (up = dir ↔ '.' ∉ package.toList) := by
  by_cases hdot : '.' ∈ package.toList
  · obtain ⟨a, b, rfl, ha, hb, hlast⟩ := Name.exists_last_token hp hdot
    refine ⟨join [some dir, some (packagePath a)], isProper_join _,
      parent?_packagePath_append hdir ha hb hlast, iff_of_false (fun hup => ?_) (not_not.mpr hdot)⟩
    have hlt := length_lt_join hdir (not_isBlank_packagePath ha)
    rw [hup] at hlt
    exact lt_irrefl _ hlt
  · exact ⟨dir, hdir, parent?_packagePath_of_not_mem hdir hp hdot, iff_of_true rfl hdot⟩

/-- A package whose directory lies directly in that of the root package: the root package and one
token more, or one token that is not the root package itself. -/
def IsChildPackage (root package : String) : Prop :=
  ∃ token, '.' ∉ token.toList ∧
    (package = root ++ "." ++ token ∨ package = token ∧ package ≠ root)

lemma ne_append_dot (root rest : String) : root ≠ root ++ "." ++ rest := by
  intro h
  have hlen := congrArg String.length h
  simp only [String.length_append] at hlen
  have hdot : ".".length = 1 := rfl
  omega

lemma not_isChildPackage_self (root : String) : ¬ IsChildPackage root root := by
  rintro ⟨token, -, h | ⟨-, h⟩⟩
  · exact ne_append_dot root token h
  · exact h rfl

lemma isChildPackage_append_iff (root rest : String) :
    IsChildPackage root (root ++ "." ++ rest) ↔ '.' ∉ rest.toList := by
  constructor
  · rintro ⟨token, htoken, h | ⟨h, -⟩⟩
    · have hrest : rest = token := by
        have hchars := congrArg String.toList h
        apply String.toList_inj.mp
        simpa using hchars
      rwa [hrest]
    · rw [← h] at htoken
      exact absurd (by simp) htoken
  · exact fun h => ⟨rest, h, .inl rfl⟩

lemma isChildPackage_iff_of_not_beginsWith {root package : String} (hne : package ≠ root)
    (h : ¬ Text.BeginsWith (root ++ ".") package) :
    IsChildPackage root package ↔ '.' ∉ package.toList := by
  constructor
  · rintro ⟨token, htoken, rfl | ⟨rfl, -⟩⟩
    · exact absurd (Text.beginsWith_append (root ++ ".") token) h
    · exact htoken
  · exact fun hdot => ⟨package, hdot, .inr ⟨rfl, hne⟩⟩

/-- The three cases of a handler package: the root package, one below it, and one outside. -/
lemma relativePackageDir_cases (root : String) {package : String}
    (h : Name.isPackageName package.toList) :
    package = root ∧ relativePackageDir root (some package) = "" ∨
    (∃ rest, package = root ++ "." ++ rest ∧ Name.isPackageName rest.toList ∧
      relativePackageDir root (some package) = packagePath rest) ∨
    (package ≠ root ∧ ¬ Text.BeginsWith (root ++ ".") package ∧
      relativePackageDir root (some package) = packagePath package) := by
  have hdir : relativePackageDir root (some package) =
      if package = "" ∨ package = root then ""
      else packagePath ((Text.dropFront? (root ++ ".") package).getD package) := by
    rw [relativePackageDir, Option.getD_some, Name.trim_of_isPackageName h]
  have hempty := Name.ne_empty_of_isPackageName h
  by_cases hself : package = root
  · exact .inl ⟨hself, by rw [hdir, if_pos (.inr hself)]⟩
  · rw [if_neg (by simp [hempty, hself])] at hdir
    by_cases hbegin : Text.BeginsWith (root ++ ".") package
    · obtain ⟨rest, rfl⟩ := Text.beginsWith_iff.mp hbegin
      rw [Name.isPackageName_dot] at h
      rw [Text.dropFront?_append] at hdir
      exact .inr (.inl ⟨rest, rfl, (Bool.and_eq_true_iff.mp h).2, hdir⟩)
    · rw [Text.dropFront?_eq_none_iff.mpr hbegin] at hdir
      exact .inr (.inr ⟨hself, hbegin, hdir⟩)

/-- What two dots denote in a directory decides what lies beside it. -/
lemma IsRooted.beside?_iff {l : Layout} (h : l.IsRooted) {dir up : String} (hup : IsProper up)
    (hdir : parent? dir = some up) :
    beside? dir "schemas" = some l.schemasDir ↔ parent? dir = some l.packageRootDir := by
  rw [beside?, hdir, Option.map_some, h.schemas, Option.some_inj, Option.some_inj,
    join_inj hup h.proper (by decide) (by decide) (by decide) (by decide)]
  simp

/-- From the directory of the root package itself, two dots lead out of it. -/
lemma IsRooted.not_beside?_root {l : Layout} (h : l.IsRooted) :
    parent? l.packageRootDir ≠ some l.packageRootDir ∧
      beside? l.packageRootDir "schemas" ≠ some l.schemasDir := by
  refine ⟨fun hself => lt_irrefl _ (length_lt_of_parent? hself), fun hbeside => ?_⟩
  rw [beside?, h.schemas] at hbeside
  obtain ⟨up, hup, hjoin⟩ := Option.map_eq_some_iff.mp hbeside
  -- the directory above is shorter than the root, so nothing directly below it is as long
  have hlt := length_lt_of_parent? hup
  have hroot : Text.isBlank l.packageRootDir = false := by
    rcases h.proper.cases with hempty | hroot
    · rw [hempty] at hlt
      exact absurd hlt (Nat.not_lt_zero _)
    · exact hroot
  have hlen := congrArg String.length hjoin
  rw [join_below hroot (by decide)] at hlen
  have hle := length_join_le up "schemas"
  simp only [String.length_append] at hlen
  have hslash : "/".length = 1 := rfl
  omega

/-- Below the root package, two dots denote it in the directory of a package exactly when that
package is a single token. -/
lemma IsRooted.parent?_iff_and_beside?_iff {l : Layout} (h : l.IsRooted) {dir package : String}
    (hp : Name.isPackageName package.toList)
    (hdir : dir = join [some l.packageRootDir, some (packagePath package)]) :
    (parent? dir = some l.packageRootDir ↔ '.' ∉ package.toList) ∧
      (beside? dir "schemas" = some l.schemasDir ↔ '.' ∉ package.toList) := by
  obtain ⟨up, hup, hparent, hroot⟩ := exists_parent?_packagePath h.proper hp
  rw [← hdir] at hparent
  have hiff : parent? dir = some l.packageRootDir ↔ '.' ∉ package.toList := by
    rw [hparent, Option.some_inj, hroot]
  exact ⟨hiff, (h.beside?_iff hup hparent).trans hiff⟩

/-- Two dots denote the root package in the directory of the controllers. -/
lemma IsRooted.controllersDir_twoDots {l : Layout} (h : l.IsRooted) :
    parent? l.controllersDir = some l.packageRootDir ∧
      beside? l.controllersDir "schemas" = some l.schemasDir := by
  have hdot : '.' ∉ "controllers".toList := by decide
  have hdir := h.controllers
  rw [← packagePath_of_not_mem hdot] at hdir
  have hiff := h.parent?_iff_and_beside?_iff (by decide) hdir
  exact ⟨hiff.1.mpr hdot, hiff.2.mpr hdot⟩

/-- Two dots denote the root package in the directory of the handlers exactly when the handler
package is one token away from it. -/
lemma IsRooted.handlersDir_twoDots_iff {l : Layout} (h : l.IsRooted)
    (hp : Name.isPackageName l.handlerPackage.toList) :
    (parent? l.handlersDir = some l.packageRootDir ↔
      IsChildPackage l.packageName l.handlerPackage) ∧
    (beside? l.handlersDir "schemas" = some l.schemasDir ↔
      IsChildPackage l.packageName l.handlerPackage) := by
  have hdir := h.handlers
  rcases relativePackageDir_cases l.packageName hp with
    ⟨hself, hrel⟩ | ⟨rest, hbelow, hrest, hrel⟩ | ⟨hne, hbegin, hrel⟩
  · rw [hrel, join_of_isBlank h.proper Text.isBlank_empty] at hdir
    have hnot := not_isChildPackage_self l.packageName
    rw [hdir, hself]
    exact ⟨iff_of_false h.not_beside?_root.1 hnot, iff_of_false h.not_beside?_root.2 hnot⟩
  · rw [hrel] at hdir
    rw [hbelow, isChildPackage_append_iff]
    exact h.parent?_iff_and_beside?_iff hrest hdir
  · rw [hrel] at hdir
    rw [isChildPackage_iff_of_not_beginsWith hne hbegin]
    exact h.parent?_iff_and_beside?_iff hp hdir

/-- Whether a handler package is not given or is a dotted package name, blanks around it aside. -/
def isHandlerPackage (given : Option String) : Bool :=
  (Text.present? given).all fun name => Name.isPackageName (Text.trim name).toList

section HandlerPackage

variable {package : String} {given : Option String}

lemma handlerPackage_resolve (package : String)
    (outputFolder sourceRoot testsRoot given : Option String) :
    (resolve package outputFolder sourceRoot testsRoot given).handlerPackage =
      Text.trim ((Text.present? given).getD (package ++ ".handlers")) := rfl

lemma isPackageName_defaultHandlers (hp : Name.isPackageName package.toList) :
    Name.isPackageName (package ++ "." ++ "handlers").toList := by
  rw [Name.isPackageName_dot, hp]
  decide

/-- The handler package of a project that does not name one. -/
lemma handlerPackage_of_present?_eq_none (hp : Name.isPackageName package.toList)
    (h : Text.present? given = none) (outputFolder sourceRoot testsRoot : Option String) :
    (resolve package outputFolder sourceRoot testsRoot given).handlerPackage =
      package ++ "." ++ "handlers" := by
  have hname : package ++ ".handlers" = package ++ "." ++ "handlers" := by
    rw [String.append_assoc]
    rfl
  rw [handlerPackage_resolve, h, Option.getD_none, hname,
    Name.trim_of_isPackageName (isPackageName_defaultHandlers hp)]

/-- Handlers live in a dotted package. -/
lemma isPackageName_handlerPackage (hp : Name.isPackageName package.toList)
    (h : isHandlerPackage given) (outputFolder sourceRoot testsRoot : Option String) :
    Name.isPackageName
      (resolve package outputFolder sourceRoot testsRoot given).handlerPackage.toList := by
  rcases hgiven : Text.present? given with _ | name
  · rw [handlerPackage_of_present?_eq_none hp hgiven]
    exact isPackageName_defaultHandlers hp
  · rw [isHandlerPackage, hgiven, Option.all_some] at h
    rw [handlerPackage_resolve, hgiven, Option.getD_some, h]

end HandlerPackage

/-- In the controllers of a project, two dots denote the root package and `..schemas` that of the
models. In the handlers they do so exactly when the handler package is one token away from the root
package, as it is when it is not given. -/
theorem resolve_twoDots_iff
    (raw fallback outputFolder sourceRoot testsRoot : Option String) {given : Option String}
    (h : isHandlerPackage given) :
    let package := Name.packageName raw fallback
    let l := resolve package outputFolder sourceRoot testsRoot given
    (parent? l.controllersDir = some l.packageRootDir ∧
      beside? l.controllersDir "schemas" = some l.schemasDir) ∧
    (parent? l.handlersDir = some l.packageRootDir ↔ IsChildPackage package l.handlerPackage) ∧
    (beside? l.handlersDir "schemas" = some l.schemasDir ↔
      IsChildPackage package l.handlerPackage) ∧
    (Text.present? given = none → IsChildPackage package l.handlerPackage) := by
  intro package l
  have hp : Name.isPackageName package.toList := Name.isPackageName_packageName raw fallback
  have hl : l.IsRooted := isRooted_resolve package outputFolder sourceRoot testsRoot given
  obtain ⟨hparent, hbeside⟩ :=
    hl.handlersDir_twoDots_iff (isPackageName_handlerPackage hp h outputFolder sourceRoot testsRoot)
  refine ⟨hl.controllersDir_twoDots, hparent, hbeside, fun hnone => ?_⟩
  rw [handlerPackage_of_present?_eq_none hp hnone outputFolder sourceRoot testsRoot]
  exact ⟨"handlers", by decide, .inl rfl⟩

/-- Handlers in `shop.impl` find the root package where the controllers find it. -/
theorem resolve_twoDots_impl :
    Name.packageName (some "shop") none = "shop" ∧ isHandlerPackage (some "shop.impl") ∧
    let l := resolve "shop" (some "out") none (some "tests") (some "shop.impl")
    l.handlersDir = "shop/impl" ∧ parent? l.handlersDir = some l.packageRootDir ∧
      beside? l.handlersDir "schemas" = some l.schemasDir := by
  have hname : Name.packageName (some "shop") none = "shop" := by decide
  have hgiven : isHandlerPackage (some "shop.impl") := by decide
  have hchild : IsChildPackage "shop" "shop.impl" := ⟨"impl", by decide, .inl (by decide)⟩
  have hdots := resolve_twoDots_iff (some "shop") none (some "out") none (some "tests") hgiven
  rw [hname] at hdots
  obtain ⟨-, hparent, hbeside, -⟩ := hdots
  exact ⟨hname, hgiven, by decide, hparent.mpr hchild, hbeside.mpr hchild⟩

/-- Handlers in `shop.api.handlers` are two directories below the root package, and `..schemas` in
them is not the package of the models. -/
theorem resolve_not_twoDots_api_handlers :
    Name.packageName (some "shop") none = "shop" ∧ isHandlerPackage (some "shop.api.handlers") ∧
    let l := resolve "shop" (some "out") none (some "tests") (some "shop.api.handlers")
    l.packageRootDir = "shop" ∧ parent? l.handlersDir = some "shop/api" ∧
      parent? l.handlersDir ≠ some l.packageRootDir ∧
      beside? l.handlersDir "schemas" = some "shop/api/schemas" ∧
      beside? l.handlersDir "schemas" ≠ some l.schemasDir := by
  decide

end Layout
end StubPlan
