import StubPlan.Proofs.Text.Blank
import StubPlan.Server

/-! The port and the context path that a list of servers implies. One scan looks for both and stops
early; what it finds is what two searches find that know nothing of each other. -/
namespace StubPlan
open Chars

namespace Url
open Utf8

lemma units_of_not_mem {s : List Char} (h : '%' ∉ s) : units s = s.map plainUnit := by
  induction s with
  | nil => rfl
  | cons c rest ih =>
    rw [List.mem_cons, not_or] at h
    rw [units, ih h.2, List.map_cons]
    rintro a b more rfl -
    exact h.1 rfl

lemma scanUnits_plainUnit (s : List Char) : scanUnits none (s.map plainUnit) = s.map some := by
  induction s with
  | nil => rfl
  | cons c rest ih =>
    by_cases hc : c.toNat < 128
    · have hstart : start c.toNat = ([some c], none) := by
        rw [start, if_pos hc, Char.ofNat_toNat]
      simp [plainUnit, hc, scanUnits, step, hstart, ih]
    · simp [plainUnit, hc, scanUnits, ih]

/-- Text without escapes stays as it is. -/
lemma percentDecode_of_not_mem {s : List Char} (h : '%' ∉ s) : percentDecode s = s := by
  rw [percentDecode, units_of_not_mem h, scanUnits_plainUnit, List.map_map]
  exact List.map_id s

/-- A blank path has no escapes and is the root, so it needs no case of its own. -/
lemma contextPath_eq (url : Url) :
    url.contextPath = Path.context (some (String.ofList (percentDecode url.path.toList))) := by
  by_cases h : Text.isBlank url.path
  · have hno : '%' ∉ url.path.toList := fun hin =>
      absurd (List.all_eq_true.mp h '%' hin) (by decide)
    rw [contextPath, if_pos h, percentDecode_of_not_mem hno, String.ofList_toList, Path.context]
    simp only [Option.getD_some]
    rw [trim_of_isBlank h]
  · rw [contextPath, if_neg h]

/-- The context path of a URL that is not the root. -/
def mountPath? (url : Url) : Option String :=
  let path := Path.context (some (String.ofList (percentDecode url.path.toList)))
  if path = "" then none else some path

/-- The ports on which the schemes of the web are served. -/
def wellKnownPorts : List (String × Nat) := [("https", 443), ("http", 80)]

/-- The positive port that a URL carries, or else the one on which its scheme is served. -/
def ownPort? (url : Url) : Option Nat :=
  (url.port?.join.filter (0 < ·)).or (wellKnownPorts.lookup url.scheme)

lemma lookup_wellKnownPorts (scheme : String) :
    wellKnownPorts.lookup scheme =
      if schemePort scheme = 0 then none else some (schemePort scheme) := by
  by_cases hs : scheme = "https"
  · subst hs
    rfl
  · by_cases h : scheme = "http"
    · subst h
      rfl
    · simp [wellKnownPorts, schemePort, hs, h, List.lookup_cons, beq_eq_false_iff_ne.mpr]

lemma listenPort_eq_elim (url : Url) : url.listenPort = url.ownPort?.elim "" toString := by
  have hport : (url.port?.bind id).getD 0 = url.port?.join.getD 0 := rfl
  rw [listenPort, ownPort?, lookup_wellKnownPorts, hport]
  rcases url.port?.join with _ | _ | port
  · rcases schemePort url.scheme with _ | port <;> rfl
  · rcases schemePort url.scheme with _ | port <;> rfl
  · rfl

lemma contextPath_eq_elim (url : Url) : url.contextPath = url.mountPath?.elim "" id := by
  rw [contextPath_eq, mountPath?]
  split <;> simp_all

lemma ne_of_mountPath? {url : Url} {path : String} (h : url.mountPath? = some path) :
    path ≠ "" := by
  rw [mountPath?, Option.ite_none_left_eq_some] at h
  exact Option.some.inj h.2 ▸ h.1

end Url

namespace ServerDefaults

/-- The URLs of the servers that can be read, in order. -/
def readable (servers : List (Option Server)) : List Url :=
  servers.filterMap (·.bind Server.resolvedUrl?)

lemma readable_cons (server : Option Server) (rest : List (Option Server)) :
    readable (server :: rest) = (server.bind Server.resolvedUrl?).toList ++ readable rest := by
  rw [readable, List.filterMap_cons]
  split <;> simp_all [readable]

/-- The first text that is not empty; without one, what is said to take its place. -/
def firstNonempty (otherwise : String) : List String → String
  | [] => otherwise
  | s :: rest => if s = "" then firstNonempty otherwise rest else s

lemma firstNonempty_of_ne {s : String} (h : s ≠ "") (otherwise : String) (rest : List String) :
    firstNonempty otherwise (s :: rest) = s := if_neg h

lemma firstNonempty_singleton (s : String) : firstNonempty "" [s] = s := by
  by_cases h : s = "" <;> simp [firstNonempty, h]

/-- One step of the scan: what is missing is asked of the next server. -/
lemma firstNonempty_step (known next : String) (rest : List String) :
    firstNonempty "" ((if known = "" then next else known) :: rest) =
      firstNonempty "" (known :: next :: rest) := by
  by_cases h : known = "" <;> simp [firstNonempty, h]

/-- What takes the place of a missing text may as well be put there in the end. -/
lemma firstNonempty_otherwise (otherwise : String) (texts : List String) :
    (if firstNonempty "" texts = "" then otherwise else firstNonempty "" texts) =
      firstNonempty otherwise texts := by
  induction texts with
  | nil => rfl
  | cons s rest ih => by_cases h : s = "" <;> simp [firstNonempty, h, ih]

/-- The first text that is not empty is that of the first value, where values write such texts. -/
lemma firstNonempty_map {α : Type} {text : Url → String} {value? : Url → Option α}
    {write : α → String} (htext : ∀ url, text url = (value? url).elim "" write)
    (hwrite : ∀ url a, value? url = some a → write a ≠ "") (otherwise : String)
    (urls : List Url) :
    firstNonempty otherwise (urls.map text) = (urls.findSome? value?).elim otherwise write := by
  induction urls with
  | nil => rfl
  | cons url rest ih =>
    rw [List.map_cons, List.findSome?_cons, firstNonempty, htext url]
    rcases hv : value? url with _ | a
    · simpa using ih
    · simp [hwrite url a hv]

/-- Throughout the scan, each of the two is the first text that is not empty among what is known and
what the servers left say. -/
lemma scan_eq (known : ServerDefaults) (servers : List (Option Server)) :
    scan known servers =
      { port := firstNonempty "" (known.port :: (readable servers).map Url.listenPort)
        contextPath :=
          firstNonempty "" (known.contextPath :: (readable servers).map Url.contextPath) } := by
  fun_induction scan known servers with
  | case1 known => simp [readable, firstNonempty_singleton]
  | case2 known server rest h =>
    rw [firstNonempty_of_ne h.1, firstNonempty_of_ne h.2]
  | case3 known server rest h hnone ih =>
    rw [ih, readable_cons, hnone, Option.toList_none, List.nil_append]
  | case4 known server rest h url hsome port contextPath ih =>
    rw [ih, readable_cons, hsome, Option.toList_some, List.singleton_append, List.map_cons,
      List.map_cons, firstNonempty_step, firstNonempty_step]

lemma resolve_eq (servers : List (Option Server)) (port contextPath : Option String) :
    resolve servers port contextPath =
      { port := firstNonempty defaultPort
          (explicitPort port :: (readable servers).map Url.listenPort)
        contextPath := firstNonempty ""
          (Path.context contextPath :: (readable servers).map Url.contextPath) } := by
  rw [resolve, scan_eq, ← firstNonempty_otherwise defaultPort]
  dsimp only
  split <;> rfl

/-- Servers that cannot be read count for nothing. -/
lemma readable_filter (servers : List (Option Server)) :
    readable (servers.filter fun server => (server.bind Server.resolvedUrl?).isSome) =
      readable servers := by
  induction servers with
  | nil => rfl
  | cons server rest ih =>
    rcases h : server.bind Server.resolvedUrl? with _ | url
    · rw [List.filter_cons_of_neg (by simp [h]), ih, readable_cons, h, Option.toList_none,
        List.nil_append]
    · rw [List.filter_cons_of_pos (by simp [h]), readable_cons, readable_cons, ih]

/-- The scan gives what two searches give: what the user names comes first, then the first readable
server that has a port, or a context path, whichever servers decide the other. -/
theorem resolve_eq_searches (servers : List (Option Server)) (port contextPath : Option String) :
    resolve servers port contextPath =
      { port :=
          if explicitPort port ≠ "" then explicitPort port
          else ((readable servers).findSome? Url.ownPort?).elim "8080" toString
        contextPath :=
          if Path.context contextPath ≠ "" then Path.context contextPath
          else ((readable servers).findSome? Url.mountPath?).getD "" } ∧
    (∀ other, (resolve servers port other).port = (resolve servers port contextPath).port) ∧
    (∀ other, (resolve servers other contextPath).contextPath =
      (resolve servers port contextPath).contextPath) ∧
    resolve (servers.filter fun server => (server.bind Server.resolvedUrl?).isSome) port
      contextPath = resolve servers port contextPath := by
  have hport : ∀ urls : List Url, firstNonempty defaultPort (urls.map Url.listenPort) =
      (urls.findSome? Url.ownPort?).elim "8080" toString :=
    firstNonempty_map Url.listenPort_eq_elim (fun _ _ _ => Nat.repr_ne_empty) defaultPort
  have hpath : ∀ urls : List Url, firstNonempty "" (urls.map Url.contextPath) =
      (urls.findSome? Url.mountPath?).getD "" := by
    intro urls
    rw [firstNonempty_map Url.contextPath_eq_elim (fun _ _ => Url.ne_of_mountPath?)]
    cases urls.findSome? Url.mountPath? <;> rfl
  refine ⟨?_, fun other => ?_, fun other => ?_, ?_⟩
  · rw [resolve_eq, firstNonempty, firstNonempty, hport, hpath, ite_not, ite_not]
  · rw [resolve_eq, resolve_eq]
  · rw [resolve_eq, resolve_eq]
  · rw [resolve_eq, resolve_eq, readable_filter]

end ServerDefaults
end StubPlan
