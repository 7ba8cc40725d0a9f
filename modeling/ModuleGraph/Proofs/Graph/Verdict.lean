import ModuleGraph.Graph.Verdict

/-!
# The rules about a proposed wire

A proposed wire is judged in one pass over the existing connections. What comes of it is what the
first rule says that the wire breaks, where each rule looks at all connections for itself. So the
verdict depends on nothing but which connections feed the same input, and more connections never let
a wire in.

## Main definitions

- `PortType.Fits` — an output of the first type may feed an input of the second
- `Proposal.IsRival` — a connection feeds the input port that the wire would feed
- `Rule`, `Proposal.rules`, `firstBroken?` — the rules in their order, and the first that is broken

## Main statements

- `PortType.feeds_iff` — which types fit
- `Proposal.scan_eq` — one pass says what two looks at all connections say
- `Proposal.verdict_eq_none_iff` — the wire breaks no rule
- `Proposal.verdict_congr` — the verdict depends on the rivals only
- `verdict_eq_first_broken_rule` — all of this together
- `Proposal.isJudgeable_text` — types that are texts can always be compared
-/

namespace ModuleGraph

/-! ### Types that fit -/

namespace PortType

/-- The pairs of different types of which the first may feed the second. -/
def conversions : List (Text × Text) :=
  [("number", "string"), ("number", "boolean"), ("string", "number"), ("control", "event"),
    ("event", "control")]

/-- An output of the first type may feed an input of the second. -/
inductive Fits : Text → Text → Prop
  | fromAny (target : Text) : Fits any target
  | toAny (source : Text) : Fits source any
  | same (type : Text) : Fits type type
  | converted {source target : Text} (h : (source, target) ∈ conversions) : Fits source target

theorem fits_iff {source target : Text} :
    Fits source target ↔
      source = any ∨ target = any ∨ source = target ∨ (source, target) ∈ conversions := by
  constructor
  · intro h
    cases h with
    | fromAny => exact .inl rfl
    | toAny => exact .inr (.inl rfl)
    | same => exact .inr (.inr (.inl rfl))
    | converted h => exact .inr (.inr (.inr h))
  · rintro (rfl | rfl | rfl | h)
    · exact .fromAny target
    · exact .toAny source
    · exact .same source
    · exact .converted h

instance (source target : Text) : Decidable (Fits source target) :=
  decidable_of_iff _ fits_iff.symm

/-- The types that a table lists for a source, if it has one entry for each. -/
theorem mem_listed_iff {table : List (Text × List Text)} (h : (table.map Prod.fst).Nodup)
    {source target : Text} :
    target ∈ ((table.find? (·.1 == source)).map (·.2)).getD [] ↔
      (source, target) ∈ table.flatMap fun entry => entry.2.map fun type => (entry.1, type) := by
  induction table with
  | nil => simp
  | cons entry table ih =>
    obtain ⟨hother, hrest⟩ := List.nodup_cons.1 h
    rw [List.find?_cons, List.flatMap_cons, List.mem_append, ← ih hrest]
    by_cases hsource : entry.1 = source
    · have hunlisted : table.find? (·.1 == source) = none := by
        rw [List.find?_eq_none]
        intro later hlater hsame
        rw [hsource, ← eq_of_beq hsame] at hother
        exact hother (List.mem_map_of_mem hlater)
      simp [hsource, hunlisted]
    · simp [hsource, beq_eq_false_iff_ne.2 hsource]

theorem mem_acceptedTypes?_iff {source target : Text} :
    target ∈ (acceptedTypes? source).getD [] ↔
      (source, target) ∈ (("data" : Text), any) :: conversions := by
  have htable : ((("data" : Text), any) :: conversions).Perm
      (acceptances.flatMap fun entry => entry.2.map fun type => (entry.1, type)) := by decide
  rw [htable.mem_iff]
  exact mem_listed_iff (by decide)

theorem feeds_iff {source target : Text} : feeds source target = true ↔ Fits source target := by
  have hlisted : (((acceptedTypes? source).getD []).any fun type => Label.ofText type == target) =
      true ↔ target ∈ (acceptedTypes? source).getD [] := by
    show (((acceptedTypes? source).getD []).any fun type => type == target) = true ↔ _
    rw [List.any_beq', List.contains_iff_mem]
  have hatOnce : fitsAtOnce source target = true ↔
      (source = any ∨ target = any) ∨ source = target := by
    rw [fitsAtOnce, Bool.or_eq_true_iff, Bool.or_eq_true_iff, beq_iff_eq, beq_iff_eq, beq_iff_eq]
    rfl
  rw [feeds, Bool.or_eq_true_iff, hatOnce, hlisted, mem_acceptedTypes?_iff, List.mem_cons, fits_iff]
  constructor
  · rintro (((hsource | htarget) | hsame) | hdata | hconverted)
    · exact .inl hsource
    · exact .inr (.inl htarget)
    · exact .inr (.inr (.inl hsame))
    · exact .inr (.inl (congrArg Prod.snd hdata))
    · exact .inr (.inr (.inr hconverted))
  · rintro (hsource | htarget | hsame | hconverted)
    · exact .inl (.inl (.inl hsource))
    · exact .inl (.inl (.inr htarget))
    · exact .inl (.inr hsame)
    · exact .inr (.inr hconverted)

end PortType

/-! ### One pass over the connections -/

namespace Proposal

section Labels

variable {L : Type} [Label L] {proposal : Proposal L}

/-- One pass says what two looks at all connections say, one after the other. -/
theorem scan_eq (proposal : Proposal L) (bound : Bool) (existing : List (Connection L)) :
    proposal.scan bound existing =
      if existing.any fun connection =>
          proposal.sharesTarget connection && proposal.sharesSource connection then
        some .duplicateConnection
      else if bound || existing.any proposal.sharesTarget then some .inputAlreadyBound
      else none := by
  induction existing generalizing bound with
  | nil => simp [scan]
  | cons connection existing ih =>
    rw [scan, List.any_cons, List.any_cons]
    cases htarget : proposal.sharesTarget connection with
    | false => simp [ih]
    | true =>
      -- whether an earlier connection feeds the input does not matter any more
      cases hsource : proposal.sharesSource connection <;> simp [ih]

theorem scan_eq_none_iff {bound : Bool} {existing : List (Connection L)} :
    proposal.scan bound existing = none ↔
      bound = false ∧ ∀ connection ∈ existing, proposal.sharesTarget connection = false := by
  rw [scan_eq]
  constructor
  · intro h
    split at h
    · cases h
    · split at h
      · cases h
      · rename_i hfree
        simpa using hfree
  · rintro ⟨rfl, hfree⟩
    have hbound : existing.any proposal.sharesTarget = false := by simpa using hfree
    have hduplicate : (existing.any fun connection =>
        proposal.sharesTarget connection && proposal.sharesSource connection) = false := by
      rw [List.any_eq_false]
      intro connection hconnection
      simp [hfree connection hconnection]
    rw [hduplicate, hbound]
    rfl

theorem verdict_eq_none_iff {existing : List (Connection L)} :
    proposal.verdict existing = none ↔
      proposal.isLoop = false ∧
      PortType.feeds proposal.sourcePort.type proposal.targetPort.type = true ∧
      ∀ connection ∈ existing, proposal.sharesTarget connection = false := by
  rw [verdict]
  by_cases hloop : proposal.isLoop = true
  · simp [hloop]
  · by_cases hfeeds : PortType.feeds proposal.sourcePort.type proposal.targetPort.type = true
    · simp [hloop, hfeeds, scan_eq_none_iff]
    · simp [hloop, hfeeds]

/-- The verdict depends on nothing but which connections feed the input port. -/
theorem verdict_congr {existing other : List (Connection L)}
    (h : ∀ connection, proposal.sharesTarget connection = true →
      (connection ∈ existing ↔ connection ∈ other)) :
    proposal.verdict existing = proposal.verdict other := by
  have hany : ∀ p : Connection L → Bool,
      (∀ connection, p connection = true → proposal.sharesTarget connection = true) →
        existing.any p = other.any p := by
    intro p hp
    rw [Bool.eq_iff_iff, List.any_eq_true, List.any_eq_true]
    exact exists_congr fun connection => and_congr_left fun hconnection => h _ (hp _ hconnection)
  have hduplicate := hany
    (fun connection => proposal.sharesTarget connection && proposal.sharesSource connection)
    fun connection hboth => (Bool.and_eq_true_iff.1 hboth).1
  have hbound := hany proposal.sharesTarget fun _ htarget => htarget
  rw [verdict, verdict, scan_eq, scan_eq, hduplicate, hbound]

/-- More connections never let a wire in. -/
theorem verdict_ne_none_of_subset {existing other : List (Connection L)} (h : existing ⊆ other)
    (hrejected : proposal.verdict existing ≠ none) : proposal.verdict other ≠ none := by
  intro haccepted
  obtain ⟨hloop, hfeeds, hfree⟩ := verdict_eq_none_iff.1 haccepted
  exact hrejected (verdict_eq_none_iff.2
    ⟨hloop, hfeeds, fun connection hconnection => hfree connection (h hconnection)⟩)

end Labels

theorem isJudgeable_text (proposal : Proposal Text) : proposal.isJudgeable = true := by
  simp [isJudgeable, PortType.isComparable]

end Proposal

/-! ### The rules -/

/-- A rule about a wire: whether the wire breaks it, and what is said then. -/
structure Rule where
  isBroken : Bool
  rejection : Rejection Text
  deriving DecidableEq, Repr

/-- What the first broken rule says. -/
def firstBroken? (rules : List Rule) : Option (Rejection Text) :=
  (rules.find? (·.isBroken)).map (·.rejection)

theorem firstBroken?_cons (rule : Rule) (rules : List Rule) :
    firstBroken? (rule :: rules) =
      if rule.isBroken then some rule.rejection else firstBroken? rules := by
  rw [firstBroken?, List.find?_cons]
  cases rule.isBroken <;> rfl

namespace Proposal

/-- The connection feeds the input port that the wire would feed. -/
def IsRival (proposal : Proposal Text) (connection : Connection Text) : Prop :=
  connection.targetNode = proposal.targetNode.id ∧ connection.targetPort = proposal.targetPort.id

instance (proposal : Proposal Text) : DecidablePred proposal.IsRival :=
  fun _ => inferInstanceAs (Decidable (_ ∧ _))

/-- The rules about a wire beside the existing connections, in their order. -/
def rules (proposal : Proposal Text) (existing : List (Connection Text)) : List Rule :=
  [⟨proposal.sourceNode.id = proposal.targetNode.id, .selfConnection⟩,
    ⟨¬PortType.Fits proposal.sourcePort.type proposal.targetPort.type,
      .incompatibleTypes proposal.sourcePort.type proposal.targetPort.type⟩,
    ⟨∃ connection ∈ existing, connection.toEndpoints = proposal.endpoints, .duplicateConnection⟩,
    ⟨∃ connection ∈ existing, proposal.IsRival connection, .inputAlreadyBound⟩]

variable {proposal : Proposal Text} {connection : Connection Text}

theorem sharesTarget_iff :
    proposal.sharesTarget connection = true ↔ proposal.IsRival connection := by
  rw [sharesTarget, Bool.and_eq_true_iff, beq_iff_eq, beq_iff_eq]
  rfl

theorem sharesTarget_and_sharesSource_iff :
    (proposal.sharesTarget connection && proposal.sharesSource connection) = true ↔
      connection.toEndpoints = proposal.endpoints := by
  obtain ⟨⟨sourceNode, sourcePort, targetNode, targetPort⟩, id⟩ := connection
  simp only [sharesTarget, sharesSource, endpoints, Bool.and_eq_true_iff, beq_iff_eq,
    Endpoints.mk.injEq]
  exact ⟨fun ⟨⟨h₁, h₂⟩, h₃, h₄⟩ => ⟨h₃, h₄, h₁, h₂⟩, fun ⟨h₃, h₄, h₁, h₂⟩ => ⟨⟨h₁, h₂⟩, h₃, h₄⟩⟩

/-- The verdict is what the first broken rule says. -/
theorem verdict_eq_firstBroken? (proposal : Proposal Text) (existing : List (Connection Text)) :
    proposal.verdict existing = firstBroken? (proposal.rules existing) := by
  have hloop : proposal.isLoop = decide (proposal.sourceNode.id = proposal.targetNode.id) := by
    rw [isLoop, Bool.eq_iff_iff, beq_iff_eq, decide_eq_true_iff]
  have hfeeds : PortType.feeds proposal.sourcePort.type proposal.targetPort.type =
      decide (PortType.Fits proposal.sourcePort.type proposal.targetPort.type) := by
    rw [Bool.eq_iff_iff, PortType.feeds_iff, decide_eq_true_iff]
  have hduplicate : (existing.any fun connection =>
      proposal.sharesTarget connection && proposal.sharesSource connection) =
        decide (∃ connection ∈ existing, connection.toEndpoints = proposal.endpoints) := by
    rw [Bool.eq_iff_iff, List.any_eq_true, decide_eq_true_iff]
    simp only [sharesTarget_and_sharesSource_iff]
  have hbound : existing.any proposal.sharesTarget =
      decide (∃ connection ∈ existing, proposal.IsRival connection) := by
    rw [Bool.eq_iff_iff, List.any_eq_true, decide_eq_true_iff]
    simp only [sharesTarget_iff]
  have hnone : firstBroken? [] = none := rfl
  rw [verdict, scan_eq, hloop, hfeeds, hduplicate, hbound, Bool.false_or]
  simp only [rules, firstBroken?_cons, hnone, decide_eq_true_iff, ite_not]

end Proposal

/-- **The verdict is that of the first broken rule.** The rules are that the wire joins different
nodes, that its types fit, that it is not there already, and that nothing feeds its input port yet;
each of them looks at all connections for itself. So the verdict is the same for every order of the
connections, and for any other connections with the same ones among them that feed the input port;
and what is rejected stays rejected when there are more connections. -/
theorem verdict_eq_first_broken_rule (proposal : Proposal Text)
    (existing : List (Connection Text)) :
    proposal.verdict existing = firstBroken? (proposal.rules existing) ∧
    (∀ other : List (Connection Text), existing.Perm other →
      proposal.verdict other = proposal.verdict existing) ∧
    (∀ other : List (Connection Text), (∀ connection, proposal.IsRival connection →
      (connection ∈ other ↔ connection ∈ existing)) →
        proposal.verdict other = proposal.verdict existing) ∧
    (∀ other : List (Connection Text), existing ⊆ other →
      proposal.verdict existing ≠ none → proposal.verdict other ≠ none) := by
  refine ⟨proposal.verdict_eq_firstBroken? existing, ?_, ?_, ?_⟩
  · intro other hperm
    exact Proposal.verdict_congr fun connection _ => hperm.mem_iff.symm
  · intro other hrivals
    exact Proposal.verdict_congr fun connection htarget =>
      hrivals connection (Proposal.sharesTarget_iff.1 htarget)
  · intro other hmore hrejected
    exact Proposal.verdict_ne_none_of_subset hmore hrejected

/-- A mint is to feed a vault. -/
def mintToVault : Proposal Text :=
  let out : Port Text := ⟨"o", "Out", "number"⟩
  let into : Port Text := ⟨"i", "In", "string"⟩
  ⟨⟨"m", "token", "Mint", [], [out]⟩, out, ⟨"v", "token", "Vault", [into], []⟩, into⟩

/-- Something else feeds the vault, and so does the mint already. -/
def intoVault : List (Connection Text) :=
  [⟨⟨"x", "o", "v", "i"⟩, "c1"⟩, ⟨⟨"m", "o", "v", "i"⟩, "c2"⟩]

/-- The wire is there already, wherever that is found among the wires into the input port. -/
theorem verdict_mintToVault :
    let elsewhere : Connection Text := ⟨⟨"m", "o", "v", "j"⟩, "c3"⟩
    firstBroken? (mintToVault.rules intoVault) = some .duplicateConnection ∧
    mintToVault.verdict intoVault.reverse = some .duplicateConnection ∧
    mintToVault.verdict (elsewhere :: intoVault) = some .duplicateConnection ∧
    mintToVault.verdict (elsewhere :: intoVault ++ intoVault) ≠ none := by
  intro elsewhere
  obtain ⟨hrules, hperm, hrivals, hmore⟩ := verdict_eq_first_broken_rule mintToVault intoVault
  have hverdict : mintToVault.verdict intoVault = some .duplicateConnection := by decide
  refine ⟨hrules.symm.trans hverdict, ?_, ?_, ?_⟩
  · exact (hperm _ (List.reverse_perm _).symm).trans hverdict
  · refine (hrivals _ fun connection hrival => ?_).trans hverdict
    have hother : connection ≠ elsewhere := by
      rintro rfl
      exact absurd hrival.2 (by decide)
    simp [hother]
  · refine hmore _ (List.subset_append_right _ _) ?_
    simp [hverdict]

end ModuleGraph
