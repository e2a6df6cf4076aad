import Overlay.Proofs.Histories

/-!
# Which names of crates are known

A crate can call itself by a name of its own, the crates of the toolchain by
theirs, and its dependencies by those it gives them. A new graph knows exactly
these names (`ownRoot_eq_none_iff`).

A graph that has been asked before need not agree with a new one. The local crate
is kept under its identifier, and so is a dependency of that name: once one of
the two has been read, the other name leads to it as well, even if no dependency
has it. `crateRoot_by_history` says what every name leads to after any history,
and that the two names of the local crate are the only ones with which this
happens.
-/

namespace Overlay.Generate

open Files (FileSystem)

namespace Crate

/-- The names by which a crate calls itself and others. -/
def Knows (c : Crate) (name : String) : Prop :=
  name = CrateGraph.selfName ∨ name ∈ toolchainCrates ∨
    ∃ d ∈ c.dependencies, d.name = name

variable {fs : FileSystem} {c : Crate} {name : String}

theorem dependency?_eq_none_iff :
    c.dependency? name = none ↔ ∀ d ∈ c.dependencies, d.name ≠ name := by
  rw [dependency?, List.find?_eq_none]
  simp

theorem readRoot_eq_none_iff_rootFile :
    c.readRoot fs name = .ok none ↔
      (CrateGraph.rootFile fs (.new c) name).2 = .ok none := by
  rw [readRoot]
  rcases (CrateGraph.rootFile fs (.new c) name).2 with f | (_ | (_ | path))
  · simp
  · simp
  · simp
  · simp only
    rcases loadSource fs path with f | (_ | source) <;> simp

theorem rootFile_eq_none_iff :
    (CrateGraph.rootFile fs (.new c) name).2 = .ok none ↔
      name ≠ CrateGraph.selfName ∧ c.dependency? name = none := by
  have hcrate : (CrateGraph.new c).localCrate = c := rfl
  rw [CrateGraph.rootFile, hcrate]
  by_cases hself : name = CrateGraph.selfName
  · simp [hself]
  · rw [if_neg (by simpa using hself)]
    match hdep : c.dependency? name with
    | none => simp [hself]
    | some ⟨_, none⟩ => simp
    | some ⟨_, some dir⟩ =>
        simp only
        cases (Crate.load fs (dir.join manifestName)).2 <;> simp [Except.map]

theorem ownRoot_eq_none_iff : c.ownRoot fs name = .ok none ↔ ¬ c.Knows name := by
  rw [Knows, ownRoot]
  by_cases htools : name ∈ toolchainCrates
  · rw [if_pos (List.contains_iff_mem.mpr htools)]
    simp [htools]
  · rw [if_neg (fun h => htools (List.contains_iff_mem.mp h)),
      readRoot_eq_none_iff_rootFile, rootFile_eq_none_iff, dependency?_eq_none_iff]
    simp [htools]

theorem rootKey_self (c : Crate) : c.rootKey CrateGraph.selfName = c.ident := rfl

theorem rootKey_of_ne (h : name ≠ CrateGraph.selfName) : c.rootKey name = name := by
  rw [rootKey, if_neg (by simpa using h)]

end Crate

theorem Module.mem_childName (m : Module) (name : String) :
    ':' ∈ (m.childName name).toList := by
  simp [childName]

namespace CrateGraph

open Explore Request

variable {fs : FileSystem} {c : Crate} {n : String}

/-- What settles a name is its own answer, or a module that was found for
something else. -/
theorem settles?_eq_some {r : Request} {root : CrateRoot}
    (h : r.settles? fs c n = some root) :
    (r = .crateRoot n ∧ c.ownRoot fs n = .ok (some root)) ∨
      (r ≠ .crateRoot n ∧ r.key c = c.rootKey n) := by
  have hfound : ∀ {r : Request},
      (r.foundAs? fs c (c.rootKey n)).map CrateRoot.readable = some root →
        r.key c = c.rootKey n := by
    intro r h
    by_contra hkey
    rw [foundAs?, if_neg hkey] at h
    cases h
  cases r with
  | child p k => exact Or.inr ⟨by simp, hfound h⟩
  | crateRoot k =>
      rw [settles?] at h
      split at h
      · next hk =>
        subst hk
        refine Or.inl ⟨rfl, ?_⟩
        rcases hown : c.ownRoot fs k with f | (_ | root')
        · rw [hown] at h; cases h
        · rw [hown] at h; cases h
        · rw [hown] at h; cases h; rfl
      · next hk => exact Or.inr ⟨by simpa using hk, hfound h⟩

/-- Without a question for something else that is kept under the same name, a
crate has its own answer. -/
theorem settled_own {h : List Request}
    (hown : ∀ r ∈ h, r.key c = c.rootKey n → r = .crateRoot n) :
    (match h.findSome? (settles? fs c n) with
      | some root => .ok (some root)
      | none => c.ownRoot fs n) = c.ownRoot fs n := by
  cases hsettled : h.findSome? (settles? fs c n) with
  | none => rfl
  | some root =>
      obtain ⟨r, hr, hroot⟩ := List.exists_of_findSome?_eq_some hsettled
      rcases settles?_eq_some hroot with ⟨-, hself⟩ | ⟨hne, hkey⟩
      · rw [hself]
      · exact absurd (hown r hr hkey) hne

theorem request_of_key {r : Request} (hcolon : ':' ∉ n.toList)
    (hself : n ≠ selfName) (hident : n ≠ c.ident) (h : r.key c = c.rootKey n) :
    r = .crateRoot n := by
  rw [Crate.rootKey_of_ne hself] at h
  cases r with
  | child p k =>
      rw [key] at h
      rw [← h] at hcolon
      exact absurd (p.mem_childName k) hcolon
  | crateRoot k =>
      rw [key] at h
      by_cases hk : k = selfName
      · rw [hk, Crate.rootKey_self] at h
        exact absurd h.symm hident
      · rw [Crate.rootKey_of_ne hk] at h
        rw [h]

/-- Where a name leads after any questions. A new graph knows exactly the names
of the crate itself, of the toolchain and of the dependencies. In another graph
the first question that settled the name decides, and this may be one for
something else that is kept under the same name. If there was none, which is
always so unless the name is one of the two of the local crate, the graph answers
as a new one does. -/
theorem crateRoot_by_history (fs : FileSystem) (c : Crate) (h : List Request)
    (n : String) :
    let fresh := ((crateRoot fs n).runOn (new c)).1
    let answer := ((crateRoot fs n).runOn (after fs c h)).1
    (fresh = .ok none ↔ ¬ c.Knows n) ∧
    (n ∈ toolchainCrates → answer = fresh) ∧
    (n ∉ toolchainCrates → answer =
      match h.findSome? (settles? fs c n) with
      | some root => .ok (some root)
      | none => fresh) ∧
    ((∀ r ∈ h, r.key c = c.rootKey n → r = .crateRoot n) → answer = fresh) ∧
    (':' ∉ n.toList → n ≠ selfName → n ≠ c.ident → answer = fresh) := by
  intro fresh answer
  have hfresh : fresh = c.ownRoot fs n := (leads_crateRoot_new fs c n).answer
  have htoolchain : n ∈ toolchainCrates → answer = fresh := by
    intro hn
    rw [hfresh]
    exact (leads_crateRoot_toolchain fs c h (List.contains_iff_mem.mpr hn)).answer
  have hsettled : n ∉ toolchainCrates → answer =
      match h.findSome? (settles? fs c n) with
      | some root => .ok (some root)
      | none => fresh := by
    intro hn
    rw [hfresh]
    refine (leads_crateRoot_after fs c h ?_).answer
    simpa using hn
  have hundisturbed : (∀ r ∈ h, r.key c = c.rootKey n → r = .crateRoot n) →
      answer = fresh := by
    intro hown
    by_cases hn : n ∈ toolchainCrates
    · exact htoolchain hn
    · rw [hsettled hn, hfresh]
      exact settled_own hown
  refine ⟨?_, htoolchain, hsettled, hundisturbed, ?_⟩
  · rw [hfresh]
    exact Crate.ownRoot_eq_none_iff
  · intro hcolon hself hident
    exact hundisturbed fun r _ hkey => request_of_key hcolon hself hident hkey

/-- A crate with an empty root file and a dependency without sources. -/
def solitary : Crate :=
  ⟨"demo", "/demo", some "/demo/lib.rs", [⟨"serde", none⟩], .default⟩

def solitaryFiles : FileSystem :=
  ⟨.directory [("demo", .directory [("lib.rs", .file (.text ""))])], []⟩

/-- The local crate by its identifier: no dependency has that name, and once the
crate has been read the name leads to it. -/
theorem crateRoot_by_history_solitary :
    ¬ solitary.Knows "demo" ∧
    ((crateRoot solitaryFiles "demo").runOn (new solitary)).1 = .ok none ∧
    (∃ m, m.name = "demo" ∧ ((crateRoot solitaryFiles "demo").runOn
      (after solitaryFiles solitary [.crateRoot "crate"])).1 =
        .ok (some (.readable m))) ∧
    ((crateRoot solitaryFiles "serde").runOn
      (after solitaryFiles solitary [.crateRoot "crate"])).1 =
        .ok (some .sealed) := by
  have hdemo := crateRoot_by_history solitaryFiles solitary [.crateRoot "crate"] "demo"
  have hserde := crateRoot_by_history solitaryFiles solitary [.crateRoot "crate"] "serde"
  have hunknown : ¬ solitary.Knows "demo" := by
    simp [Crate.Knows, selfName, toolchainCrates, solitary]
  refine ⟨hunknown, hdemo.1.mpr hunknown, ?_, ?_⟩
  · refine ⟨_, ?_, hdemo.2.2.1 (by decide)⟩
    rfl
  · rw [hserde.2.2.2.2 (by decide) (by decide) (by decide)]
    rfl

end CrateGraph

end Overlay.Generate
