import StubPlan.Proofs.Server.Defaults
import StubPlan.Proofs.Server.Reordering

/-! Placeholders of variables that a server does not declare. Placeholders do not overlap, so that no
step of filling in takes a character from one of another name. It is still there when all variables have
been put in, and no URL has a brace. -/
namespace StubPlan
open Chars
open Relation (ReflTransGen)
open Text (IsBraceFree)

namespace Server

variable {server : Server} {name : String} {s t : List Char}

/-- Filling in a place leaves the placeholder of any other name whole, on whichever side it stands. -/
lemma Fills.placeholder_infix (hnames : ∀ v ∈ server.declared, IsBraceFree v.1)
    (hname : IsBraceFree name) (hundeclared : name ∉ server.declared.map Prod.fst)
    (h : server.Fills s t) (hin : (placeholder name).toList <:+: s) :
    (placeholder name).toList <:+: t := by
  obtain ⟨before, after, v, hv, rfl, rfl⟩ := h
  obtain ⟨left, right, heq⟩ := hin
  have hne : v.1 ≠ name := by
    rintro rfl
    exact hundeclared (List.mem_map_of_mem hv)
  rw [List.append_assoc] at heq
  obtain ⟨between, rfl, hrest⟩ | ⟨between, rfl, hrest⟩ := List.append_eq_append_iff.mp heq
  · obtain ⟨-, hsame, -⟩ | ⟨rest, rfl, -⟩ :=
      placeholder_append_cases hname (hnames v hv) hrest
    · exact absurd hsame.symm hne
    · exact ⟨left, rest ++ ((ServerVariable.replacement v.1 v.2).toList ++ after), by simp⟩
  · obtain ⟨-, hsame, -⟩ | ⟨rest, -, rfl⟩ :=
      placeholder_append_cases (hnames v hv) hname hrest
    · exact absurd hsame hne
    · exact ⟨before ++ ((ServerVariable.replacement v.1 v.2).toList ++ rest), right, by simp⟩

/-- Any number of steps leave it whole. -/
lemma placeholder_infix_of_reflTransGen (hnames : ∀ v ∈ server.declared, IsBraceFree v.1)
    (hname : IsBraceFree name) (hundeclared : name ∉ server.declared.map Prod.fst)
    (h : ReflTransGen server.Fills s t) (hin : (placeholder name).toList <:+: s) :
    (placeholder name).toList <:+: t := by
  induction h with
  | refl => exact hin
  | tail _ hstep ih => exact hstep.placeholder_infix hnames hname hundeclared ih

/-- A server whose template has the placeholder of a variable that it does not declare has no URL,
whatever the defaults of the others bring in and whatever text stands around it; so it counts for
nothing among other servers. -/
theorem resolvedUrl?_undeclared (hnames : ∀ v ∈ server.declared, IsBraceFree v.1)
    (hname : IsBraceFree name) (hundeclared : name ∉ server.declared.map Prod.fst)
    (hin : (placeholder name).toList <:+: (server.url.getD "").toList) :
    server.resolvedUrl? = none ∧
      ∀ front back port contextPath,
        ServerDefaults.resolve (front ++ some server :: back) port contextPath =
          ServerDefaults.resolve (front ++ back) port contextPath := by
  have hleft : (placeholder name).toList <:+: server.substituted.toList :=
    placeholder_infix_of_reflTransGen hnames hname hundeclared (reflTransGen_substituted server) hin
  have hbrace : '{' ∈ server.substituted.toList :=
    hleft.subset (by rw [toList_placeholder]; exact List.mem_cons_self)
  have hnone : server.resolvedUrl? = none :=
    Option.eq_none_iff_forall_ne_some.mpr fun url h => (of_resolvedUrl? h).1 hbrace
  refine ⟨hnone, fun front back port contextPath => ?_⟩
  have hreadable : ServerDefaults.readable (front ++ some server :: back) =
      ServerDefaults.readable (front ++ back) := by
    simp [ServerDefaults.readable, hnone]
  rw [ServerDefaults.resolve_eq, ServerDefaults.resolve_eq, hreadable]

/-- The default of another variable closes one brace and opens the next, right at both ends of the
placeholder. -/
theorem resolvedUrl?_undeclared_region :
    let server : Server := ⟨some "http://\x7bzone\x7d\x7bregion\x7d\x7bzone\x7d/\x7bbase\x7d", none,
      [("zone", some ⟨some "\x7bbase\x7d\x7breg", [], none⟩), ("reg", some ⟨some " ", [], none⟩),
        ("base", none)]⟩
    let other : Server := ⟨some "https://api.example.com/v1", none, []⟩
    (∀ v ∈ server.declared, IsBraceFree v.1) ∧ IsBraceFree "region" ∧
      "region" ∉ server.declared.map Prod.fst ∧
      (placeholder "region").toList <:+: (server.url.getD "").toList ∧
      server.resolvedUrl? = none ∧
      ServerDefaults.resolve [none, some server, some other] none none =
        ServerDefaults.resolve [none, some other] none none ∧
      ServerDefaults.resolve [none, some other] none none = ⟨"443", "/v1"⟩ := by
  intro server other
  have hnames : ∀ v ∈ server.declared, IsBraceFree v.1 := by decide
  have hname : IsBraceFree "region" := by decide
  have hundeclared : "region" ∉ server.declared.map Prod.fst := by decide
  have hin : (placeholder "region").toList <:+: (server.url.getD "").toList := by decide
  have h := resolvedUrl?_undeclared hnames hname hundeclared hin
  exact ⟨hnames, hname, hundeclared, hin, h.1, h.2 [none] [some other] none none, by decide⟩

end Server
end StubPlan
