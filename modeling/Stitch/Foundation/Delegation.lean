import Mathlib.Data.List.Chain
import Mathlib.Data.Set.Insert

/-!
# Delegated authority

A grant takes effect when its granter holds a role that may grant, and authority starts at one
root peer whose role no grant changes. `Derives` is the least relation with these rules.
-/

namespace Stitch.Foundation.Delegation

@[ext] structure Grant (Peer Role : Type) where
  target : Peer
  granter : Peer
  role : Role
  deriving DecidableEq

section

variable {Peer Role : Type} (mayGrant : Role → Prop) (root : Peer) (rootRole : Role)

inductive Derives (grants : Set (Grant Peer Role)) : Peer → Role → Prop where
  | root : Derives grants root rootRole
  | granted {grant : Grant Peer Role} {granterRole : Role} (listed : grant ∈ grants)
      (notRoot : grant.target ≠ root) (granter : Derives grants grant.granter granterRole)
      (able : mayGrant granterRole) : Derives grants grant.target grant.role

def Able (grants : Set (Grant Peer Role)) (peer : Peer) : Prop :=
  ∃ role, Derives mayGrant root rootRole grants peer role ∧ mayGrant role

variable {mayGrant} {root} {rootRole} {grants : Set (Grant Peer Role)} {peer : Peer} {role : Role}
  {grant : Grant Peer Role} {chain : List (Grant Peer Role)}

theorem derives_inversion (derived : Derives mayGrant root rootRole grants peer role) :
    (peer = root ∧ role = rootRole) ∨
      peer ≠ root ∧ ∃ grant ∈ grants, grant.target = peer ∧ grant.role = role ∧
        Able mayGrant root rootRole grants grant.granter := by
  cases derived with
  | root => exact Or.inl ⟨rfl, rfl⟩
  | granted listed notRoot granter able =>
    exact Or.inr ⟨notRoot, _, listed, rfl, rfl, _, granter, able⟩

theorem derives_mono {more : Set (Grant Peer Role)} (included : grants ⊆ more)
    (derived : Derives mayGrant root rootRole grants peer role) :
    Derives mayGrant root rootRole more peer role := by
  induction derived with
  | root => exact .root
  | granted listed notRoot _ able ih => exact .granted (included listed) notRoot ih able

theorem derives_insert_idle (idle : ¬Able mayGrant root rootRole grants grant.granter) (peer : Peer)
    (role : Role) :
    Derives mayGrant root rootRole (insert grant grants) peer role ↔
      Derives mayGrant root rootRole grants peer role := by
  constructor
  · intro derived
    induction derived with
    | root => exact .root
    | granted listed notRoot _ able ih =>
      rcases listed with rfl | listed
      · exact (idle ⟨_, ih, able⟩).elim
      · exact .granted listed notRoot ih able
  · exact derives_mono (Set.subset_insert grant grants)

/-- Dropping a grant changes nothing exactly when it was without effect or its
effect follows from the other grants. -/
theorem derives_insert_redundant_iff (grant : Grant Peer Role) :
    (∀ peer role, Derives mayGrant root rootRole (insert grant grants) peer role ↔
      Derives mayGrant root rootRole grants peer role) ↔
    grant.target = root ∨
      ¬Able mayGrant root rootRole (insert grant grants) grant.granter ∨
      Derives mayGrant root rootRole grants grant.target grant.role := by
  constructor
  · intro same
    by_cases targetsRoot : grant.target = root
    · exact Or.inl targetsRoot
    by_cases effective : Able mayGrant root rootRole (insert grant grants) grant.granter
    · obtain ⟨role, granter, able⟩ := effective
      have derived := Derives.granted (Set.mem_insert grant grants) targetsRoot granter able
      exact Or.inr (Or.inr ((same _ _).mp derived))
    · exact Or.inr (Or.inl effective)
  · intro redundant peer role
    constructor
    · intro derived
      induction derived with
      | root => exact .root
      | granted listed notRoot granter able ih =>
        rcases listed with rfl | listed
        · rcases redundant with targetsRoot | idle | follows
          · exact (notRoot targetsRoot).elim
          · exact (idle ⟨_, granter, able⟩).elim
          · exact follows
        · exact .granted listed notRoot ih able
    · exact derives_mono (Set.subset_insert grant grants)

/-- Grants that agree on the role of each target derive one role for each peer. -/
theorem derives_functional (agree : ∀ left ∈ grants, ∀ right ∈ grants, left.target = right.target →
      left.role = right.role) {first second : Role}
    (firstDerived : Derives mayGrant root rootRole grants peer first)
    (secondDerived : Derives mayGrant root rootRole grants peer second) : first = second := by
  rcases derives_inversion firstDerived with ⟨isRoot, firstRole⟩ | ⟨notRoot, left, leftListed,
    leftTarget, leftRole, -⟩
  · rcases derives_inversion secondDerived with ⟨-, secondRole⟩ | ⟨notRoot, -⟩
    · rw [firstRole, secondRole]
    · exact (notRoot isRoot).elim
  · rcases derives_inversion secondDerived with ⟨isRoot, -⟩ | ⟨-, right, rightListed,
      rightTarget, rightRole, -⟩
    · exact (notRoot isRoot).elim
    · rw [← leftRole, ← rightRole]
      exact agree left leftListed right rightListed (leftTarget.trans rightTarget.symm)

/-- An assignment of roles that contains the root, holds only derived roles and
is closed under the grants is the derived relation. -/
theorem closed_assignment_iff (held : Peer → Option Role) (rootHeld : held root = some rootRole)
    (justified : ∀ peer role, held peer = some role →
      Derives mayGrant root rootRole grants peer role)
    (closed : ∀ grant ∈ grants, grant.target ≠ root → ∀ role, held grant.granter = some role →
      mayGrant role → held grant.target = some grant.role) (peer : Peer) (role : Role) :
    held peer = some role ↔ Derives mayGrant root rootRole grants peer role := by
  constructor
  · exact justified peer role
  · intro derived
    induction derived with
    | root => exact rootHeld
    | granted listed notRoot _ able ih => exact closed _ listed notRoot _ ih able

/-- A chain of grants from a peer up to the root, the peer's own grant first. -/
inductive GrantChain (root : Peer) (grants : Set (Grant Peer Role)) :
    Peer → List (Grant Peer Role) → Prop where
  | direct {grant : Grant Peer Role} (listed : grant ∈ grants) (fromRoot : grant.granter = root) :
      GrantChain root grants grant.target [grant]
  | through {grant : Grant Peer Role} {chain : List (Grant Peer Role)} (listed : grant ∈ grants)
      (delegated : grant.granter ≠ root) (rest : GrantChain root grants grant.granter chain) :
      GrantChain root grants grant.target (grant :: chain)

/-- A peer other than the root derives its role through a chain, and the grants
of that chain alone derive it. -/
theorem derives_chain (derived : Derives mayGrant root rootRole grants peer role)
    (rootAble : mayGrant rootRole) (notRoot : peer ≠ root) :
    ∃ chain, GrantChain root grants peer chain ∧
      ∀ more : Set (Grant Peer Role), (∀ grant ∈ chain, grant ∈ more) →
        Derives mayGrant root rootRole more peer role := by
  induction derived with
  | root => exact (notRoot rfl).elim
  | granted listed targetNotRoot granter able ih =>
    rename_i grant granterRole
    by_cases fromRoot : grant.granter = root
    · refine ⟨[grant], .direct listed fromRoot, ?_⟩
      intro more included
      have granterRoot : Derives mayGrant root rootRole more grant.granter rootRole := by
        rw [fromRoot]
        exact .root
      exact .granted (included grant List.mem_cons_self) targetNotRoot granterRoot rootAble
    · rcases ih fromRoot with ⟨chain, rest, enough⟩
      refine ⟨grant :: chain, .through listed fromRoot rest, ?_⟩
      intro more included
      have granterDerived := enough more fun other member =>
        included other (List.mem_cons_of_mem _ member)
      exact .granted (included grant List.mem_cons_self) targetNotRoot granterDerived able

/-- Grants from the root to a last one. Each is made by the target of the one before it,
which was given a role that may grant. -/
structure RootedChain (mayGrant : Role → Prop) (root : Peer) (grants : Set (Grant Peer Role))
    (chain : List (Grant Peer Role)) (last : Grant Peer Role) : Prop where
  listed : ∀ grant ∈ chain, grant ∈ grants
  rooted : chain.head?.map Grant.granter = some root
  linked : chain.IsChain fun earlier later =>
    later.granter = earlier.target ∧ mayGrant earlier.role
  ends : chain.getLast? = some last

theorem rooted_chain_direct (listed : grant ∈ grants) (fromRoot : grant.granter = root) :
    RootedChain mayGrant root grants [grant] grant where
  listed := by
    intro other member
    rw [List.mem_singleton.mp member]
    exact listed
  rooted := congrArg some fromRoot
  linked := List.isChain_singleton grant
  ends := rfl

theorem rooted_chain_snoc {earlier : Grant Peer Role}
    (isChain : RootedChain mayGrant root grants chain earlier) (able : mayGrant earlier.role)
    (listed : grant ∈ grants) (delegated : grant.granter = earlier.target) :
    RootedChain mayGrant root grants (chain ++ [grant]) grant where
  listed := by
    intro other member
    rcases List.mem_append.mp member with before | new
    · exact isChain.listed other before
    · rw [List.mem_singleton.mp new]
      exact listed
  rooted := by
    obtain ⟨first, isFirst, fromRoot⟩ := Option.map_eq_some_iff.mp isChain.rooted
    rw [List.head?_append, isFirst, Option.some_or, Option.map_some, fromRoot]
  linked := by
    rw [List.isChain_append]
    refine ⟨isChain.linked, List.isChain_singleton grant, ?_⟩
    intro before isLast next isNext
    rw [isChain.ends, Option.mem_some_iff] at isLast
    rw [List.head?_cons, Option.mem_some_iff] at isNext
    subst isLast isNext
    exact ⟨delegated, able⟩
  ends := List.getLast?_concat

theorem rooted_chain_granter_able (rootAble : mayGrant rootRole) {last : Grant Peer Role}
    (isChain : RootedChain mayGrant root grants chain last) :
    Able mayGrant root rootRole grants last.granter := by
  induction chain using List.reverseRecOn generalizing last with
  | nil => cases isChain.ends
  | append_singleton before grant ih =>
    have same : grant = last := by
      have ends := isChain.ends
      rw [List.getLast?_concat, Option.some.injEq] at ends
      exact ends
    subst same
    cases ended : before.getLast? with
    | none =>
      have rooted := isChain.rooted
      rw [List.getLast?_eq_none_iff.mp ended] at rooted
      have fromRoot : grant.granter = root := Option.some.inj rooted
      rw [fromRoot]
      exact ⟨rootRole, .root, rootAble⟩
    | some earlier =>
      have linked := isChain.linked
      rw [List.isChain_append] at linked
      obtain ⟨beforeLinked, -, joined⟩ := linked
      obtain ⟨delegated, able⟩ := joined earlier ended grant rfl
      have beforeRooted : before.head?.map Grant.granter = some root := by
        cases before with
        | nil => cases ended
        | cons first rest => exact isChain.rooted
      have granter := ih ⟨fun other member =>
        isChain.listed other (List.mem_append_left _ member), beforeRooted, beforeLinked, ended⟩
      rw [delegated]
      by_cases targetsRoot : earlier.target = root
      · rw [targetsRoot]
        exact ⟨rootRole, .root, rootAble⟩
      · obtain ⟨role, derived, granterAble⟩ := granter
        have listed := isChain.listed earlier
          (List.mem_append_left _ (List.mem_of_getLast? ended))
        exact ⟨earlier.role, .granted listed targetsRoot derived granterAble, able⟩

/-- What a peer derives, it derives as the root or through a chain from the root. -/
theorem derives_iff_rooted (rootAble : mayGrant rootRole) (peer : Peer) (role : Role) :
    Derives mayGrant root rootRole grants peer role ↔
      (peer = root ∧ role = rootRole) ∨
        peer ≠ root ∧ ∃ chain last, RootedChain mayGrant root grants chain last ∧
          last.target = peer ∧ last.role = role := by
  constructor
  · intro derived
    induction derived with
    | root => exact Or.inl ⟨rfl, rfl⟩
    | granted listed notRoot _ able ih =>
      rename_i grant _ _
      refine Or.inr ⟨notRoot, ?_⟩
      rcases ih with ⟨fromRoot, -⟩ | ⟨-, chain, last, isChain, target, given⟩
      · exact ⟨[grant], grant, rooted_chain_direct listed fromRoot, rfl, rfl⟩
      · rw [← given] at able
        exact ⟨chain ++ [grant], grant, rooted_chain_snoc isChain able listed target.symm,
          rfl, rfl⟩
  · intro reached
    rcases reached with ⟨rfl, rfl⟩ | ⟨notRoot, chain, last, isChain, rfl, rfl⟩
    · exact .root
    · obtain ⟨granterRole, derived, able⟩ := rooted_chain_granter_able rootAble isChain
      have listed := isChain.listed last (List.mem_of_getLast? isChain.ends)
      exact .granted listed notRoot derived able

theorem derives_of_rooted_kept (rootAble : mayGrant rootRole) {kept : Set (Grant Peer Role)}
    (included : kept ⊆ grants)
    (keeps : ∀ grant chain, RootedChain mayGrant root grants chain grant → grant ∈ kept)
    (peer : Peer) (role : Role) :
    Derives mayGrant root rootRole kept peer role ↔
      Derives mayGrant root rootRole grants peer role := by
  constructor
  · exact derives_mono included
  · intro derived
    induction derived with
    | root => exact .root
    | granted listed notRoot granter able ih =>
      rename_i grant _
      refine .granted ?_ notRoot ih able
      rcases (derives_iff_rooted rootAble _ _).mp granter with
        ⟨fromRoot, -⟩ | ⟨-, chain, last, isChain, target, given⟩
      · exact keeps grant [grant] (rooted_chain_direct listed fromRoot)
      · rw [← given] at able
        exact keeps grant _ (rooted_chain_snoc isChain able listed target.symm)

theorem grant_chain_listed (isChain : GrantChain root grants peer chain) :
    ∀ grant ∈ chain, grant ∈ grants := by
  induction isChain with
  | direct listed fromRoot =>
    intro other member
    rw [List.mem_singleton.mp member]
    exact listed
  | through listed delegated rest ih =>
    intro other member
    rcases List.mem_cons.mp member with rfl | later
    · exact listed
    · exact ih other later

theorem grant_chain_member (isChain : GrantChain root grants peer chain) (member : grant ∈ chain) :
    ∃ suffix, GrantChain root grants grant.target suffix ∧ suffix.length ≤ chain.length := by
  induction isChain with
  | direct listed fromRoot =>
    rw [List.mem_singleton] at member
    subst member
    exact ⟨[grant], .direct listed fromRoot, Nat.le_refl _⟩
  | through listed delegated rest ih =>
    rename_i first chain
    rcases List.mem_cons.mp member with rfl | later
    · exact ⟨grant :: chain, .through listed delegated rest, Nat.le_refl _⟩
    · rcases ih later with ⟨suffix, suffixChain, bound⟩
      exact ⟨suffix, suffixChain, Nat.le_succ_of_le bound⟩

section

variable (single : ∀ left ∈ grants, ∀ right ∈ grants, left.target = right.target → left = right)
include single

variable {peer : Peer}

theorem grant_chain_unique {left right : List (Grant Peer Role)}
    (leftChain : GrantChain root grants peer left)
    (rightChain : GrantChain root grants peer right) : left = right := by
  induction leftChain generalizing right with
  | direct listed fromRoot =>
    rename_i grant
    generalize target : grant.target = peer at rightChain
    cases rightChain with
    | direct otherListed otherRoot => rw [single _ listed _ otherListed target]
    | through otherListed delegated rest =>
      rw [← single _ listed _ otherListed target] at delegated
      exact (delegated fromRoot).elim
  | through listed delegated rest ih =>
    rename_i grant chain
    generalize target : grant.target = peer at rightChain
    cases rightChain with
    | direct otherListed otherRoot =>
      rw [← single _ listed _ otherListed target] at otherRoot
      exact (delegated otherRoot).elim
    | through otherListed otherDelegated otherRest =>
      have same := single _ listed _ otherListed target
      subst same
      rw [ih otherRest]

theorem grant_chain_nodup {chain : List (Grant Peer Role)}
    (isChain : GrantChain root grants peer chain) : (chain.map Grant.target).Nodup := by
  induction isChain with
  | direct listed fromRoot => simp
  | through listed delegated rest ih =>
    rw [List.map_cons, List.nodup_cons]
    refine ⟨?_, ih⟩
    intro repeated
    rcases List.mem_map.mp repeated with ⟨other, member, target⟩
    rcases grant_chain_member rest member with ⟨suffix, suffixChain, bound⟩
    rw [target] at suffixChain
    have same := grant_chain_unique single suffixChain (.through listed delegated rest)
    rw [same, List.length_cons] at bound
    omega

end

end

end Stitch.Foundation.Delegation
