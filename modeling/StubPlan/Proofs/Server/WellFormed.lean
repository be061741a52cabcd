import StubPlan.Proofs.Path.Context
import StubPlan.Proofs.Server.Defaults

/-! What is resolved for a list of servers can be used as it stands. The port is written in digits and
the context path is a mount path, wherever they come from; and a port that the user has not given is
one that can be listened on. -/
namespace StubPlan
open Chars

namespace Url

lemma isDigits_toString (n : Nat) : isDigits (toString n).toList := by
  have hchars : (toString n).toList = Nat.toDigits 10 n := Nat.toList_repr
  rw [hchars, isDigits, Bool.and_eq_true, List.all_eq_true]
  refine ⟨decide_eq_true Nat.toDigits_ne_nil, fun c hc => ?_⟩
  exact Nat.isDigit_of_mem_toDigits (by decide) (by decide) hc

lemma le_of_port? {url : Url} {n : Nat} (h : url.port? = some (some n)) : n ≤ 65535 := by
  unfold port? at h
  split at h
  · exact absurd h (by simp)
  · split at h
    · next hfits =>
      obtain rfl := Option.some.inj (Option.some.inj h)
      exact hfits.2.2
    · exact absurd h (by simp)

lemma schemePort_le (scheme : String) : schemePort scheme ≤ 65535 := by
  unfold schemePort
  split
  · decide
  · split <;> decide

def IsListenable (n : Nat) : Prop := 1 ≤ n ∧ n ≤ 65535

lemma isListenable_of_ownPort? {url : Url} {n : Nat} (h : url.ownPort? = some n) :
    IsListenable n := by
  rw [ownPort?, Option.or_eq_some_iff] at h
  obtain h | ⟨-, h⟩ := h
  · obtain ⟨hport, hpos⟩ := Option.filter_eq_some_iff.mp h
    exact ⟨of_decide_eq_true hpos, le_of_port? (Option.join_eq_some_iff.mp hport)⟩
  · rw [lookup_wellKnownPorts, Option.ite_none_left_eq_some] at h
    obtain ⟨hne, hscheme⟩ := h
    rw [← Option.some.inj hscheme]
    exact ⟨Nat.one_le_iff_ne_zero.mpr hne, schemePort_le url.scheme⟩

end Url

lemma explicitPort_eq_empty_or (raw : Option String) :
    explicitPort raw = "" ∨ Url.isDigits (explicitPort raw).toList := by
  by_cases hdigits : Url.isDigits (trim (raw.getD "").toList)
  · refine .inr ?_
    rw [explicitPort, if_pos hdigits, String.toList_ofList, hdigits]
  · exact .inl (if_neg hdigits)

namespace ServerDefaults

/-- What holds of the texts that are not empty and of the one that takes their place holds of the one
that is chosen. -/
lemma firstNonempty_of_forall {P : String → Prop} {otherwise : String} {texts : List String}
    (hotherwise : P otherwise) (htexts : ∀ s ∈ texts, s ≠ "" → P s) :
    P (firstNonempty otherwise texts) := by
  induction texts with
  | nil => exact hotherwise
  | cons s rest ih =>
    rw [firstNonempty]
    split
    · exact ih fun t ht => htexts t (List.mem_cons_of_mem s ht)
    · next hs => exact htexts s List.mem_cons_self hs

/-- A port that a server implies can be listened on, and so can the one that takes its place. -/
lemma exists_listenable (urls : List Url) :
    ∃ n, Url.IsListenable n ∧ firstNonempty defaultPort (urls.map Url.listenPort) = toString n := by
  refine firstNonempty_of_forall (P := fun s => ∃ n, Url.IsListenable n ∧ s = toString n)
    ⟨8080, ⟨by decide, by decide⟩, rfl⟩ fun s hs hne => ?_
  obtain ⟨url, -, rfl⟩ := List.mem_map.mp hs
  rw [Url.listenPort_eq_elim] at hne ⊢
  rcases hport : url.ownPort? with - | n
  · exact absurd (by rw [hport]; rfl) hne
  · exact ⟨n, Url.isListenable_of_ownPort? hport, rfl⟩

lemma isMount_contextPath_resolve (servers : List (Option Server))
    (port contextPath : Option String) :
    Path.IsMount (resolve servers port contextPath).contextPath := by
  rw [resolve_eq]
  refine firstNonempty_of_forall (.inl rfl) fun s hs _ => ?_
  obtain rfl | hs := List.mem_cons.mp hs
  · exact Path.isMount_context contextPath
  · obtain ⟨url, -, rfl⟩ := List.mem_map.mp hs
    rw [Url.contextPath_eq]
    exact Path.isMount_context _

/-- The port is made of digits and the context path is a mount path, for all servers and whatever the
user gives. Without a usable port of the user's the port is the plain numeral of one that can be
listened on. -/
theorem resolve_wellFormed (servers : List (Option Server)) (port contextPath : Option String) :
    let d := resolve servers port contextPath
    Url.isDigits d.port.toList ∧ Path.IsMount d.contextPath ∧
      (explicitPort port = "" → ∃ n : Nat, 1 ≤ n ∧ n ≤ 65535 ∧ d.port = toString n) := by
  intro d
  have hport : d.port =
      firstNonempty defaultPort (explicitPort port :: (readable servers).map Url.listenPort) :=
    congrArg ServerDefaults.port (resolve_eq servers port contextPath)
  obtain ⟨n, hn, hscan⟩ := exists_listenable (readable servers)
  rw [firstNonempty, hscan] at hport
  refine ⟨?_, isMount_contextPath_resolve servers port contextPath, fun hunset => ?_⟩
  · rw [hport]
    split
    · exact Url.isDigits_toString n
    · next hset => exact (explicitPort_eq_empty_or port).resolve_left hset
  · rw [if_pos hunset] at hport
    exact ⟨n, hn.1, hn.2, hport⟩

/-- A stream has no port of its own, port zero is none, and a path of slashes is the root. -/
theorem resolve_wellFormed_stream :
    let servers := [some ⟨some "ws://events.example.com:0/stream//", none, []⟩, none,
      some ⟨some "https://\x7btenant\x7d.example.com/v1", none, []⟩]
    explicitPort (some "80a") = "" ∧
      ∃ n : Nat, 1 ≤ n ∧ n ≤ 65535 ∧ (resolve servers (some "80a") (some "//")).port = toString n :=
  ⟨by decide, (resolve_wellFormed _ _ _).2.2 (by decide)⟩

end ServerDefaults
end StubPlan
