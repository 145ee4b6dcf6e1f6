import Suppression.Proofs.Registration
/-!
# Growing key tables

The table of effective keys only ever *grows*: one checker at a time is added behind the others,
after all its references and with the keys that these references and its own declaration give it
(`Roster.Grows`). All that is known of a table follows from this by induction on its growth: it is
closed under links, its keys are those reached over links, and none of its checkers leads to a
cycle.
-/

namespace Suppression

/-! ## Looking up in a table -/

/-- The keys of a checker are known. -/
def Settled (table : KeyTable) (id : CheckerId) : Prop := ∃ keys, table.lookup id = some keys

/-- A table grants a key to a checker. -/
def Grants (table : KeyTable) (id : CheckerId) (key : String) : Prop :=
  ∃ keys, table.lookup id = some keys ∧ key ∈ keys

/-- A checker without an entry is not settled. -/
theorem not_settled_iff {table : KeyTable} {id : CheckerId} :
    ¬ Settled table id ↔ table.lookup id = none := by
  rw [Settled, ← Option.isSome_iff_exists, Option.not_isSome_iff_eq_none]

/-- An entry behind a table adds what it says and hides nothing. -/
theorem lookup_snoc {table : KeyTable} {id : CheckerId} {keys : KeySet}
    (fresh : table.lookup id = none) {other : CheckerId} {found : KeySet} :
    (table ++ [(id, keys)]).lookup other = some found ↔
      table.lookup other = some found ∨ (other = id ∧ found = keys) := by
  rw [List.lookup_append]
  by_cases hid : other = id
  · subst hid
    rw [fresh]
    simp [eq_comm]
  · rw [List.lookup_cons, beq_eq_false_iff_ne.2 hid, List.lookup_nil, Option.or_none]
    simp [hid]

/-- After an entry is added, its checker is settled, and so are those before. -/
theorem settled_snoc {table : KeyTable} {id : CheckerId} {keys : KeySet} {other : CheckerId} :
    Settled (table ++ [(id, keys)]) other ↔ Settled table other ∨ other = id := by
  unfold Settled
  rw [List.lookup_append]
  by_cases hid : other = id
  · subst hid
    cases table.lookup other <;> simp
  · rw [List.lookup_cons, beq_eq_false_iff_ne.2 hid, List.lookup_nil, Option.or_none]
    simp [hid]

namespace Roster

/-! ## Growing tables -/

/-- The second table continues the first by checkers that `admits` lets in, each added after all its
references and with exactly the keys it declares or they grant. -/
inductive Grows (roster : Roster) (admits : CheckerId → Prop) (table : KeyTable) :
    KeyTable → Prop
  /-- Nothing is added. -/
  | refl : Grows roster admits table table
  /-- One more checker is added behind. -/
  | snoc {later : KeyTable} {id : CheckerId} {checker : Checker} {keys : KeySet}
      (earlier : Grows roster admits table later) (admitted : admits id)
      (fresh : later.lookup id = none) (known : roster.checker? id = some checker)
      (settled : ∀ target ∈ checker.references, Settled later target)
      (assembled : ∀ key, key ∈ keys ↔
        key ∈ checker.keys ∨ ∃ target ∈ checker.references, Grants later target key) :
      Grows roster admits table (later ++ [(id, keys)])

namespace Grows

variable {roster : Roster} {admits : CheckerId → Prop} {table later : KeyTable}

/-- Entries stay what they are while a table grows. -/
theorem lookup (grows : roster.Grows admits table later) {id : CheckerId} {keys : KeySet}
    (h : table.lookup id = some keys) : later.lookup id = some keys := by
  induction grows with
  | refl => exact h
  | snoc _ _ fresh _ _ _ ih => exact (lookup_snoc fresh).2 (Or.inl ih)

/-- What is settled stays settled. -/
theorem settled (grows : roster.Grows admits table later) {id : CheckerId}
    (h : Settled table id) : Settled later id := by
  obtain ⟨keys, hkeys⟩ := h
  exact ⟨keys, grows.lookup hkeys⟩

/-- Growing further is growing. -/
theorem trans {last : KeyTable} (first : roster.Grows admits table later)
    (second : roster.Grows admits later last) : roster.Grows admits table last := by
  induction second with
  | refl => exact first
  | snoc _ admitted fresh known settled assembled ih =>
    exact Grows.snoc ih admitted fresh known settled assembled

/-- A table may grow by more checkers under a weaker condition. -/
theorem mono {weaker : CheckerId → Prop} (grows : roster.Grows admits table later)
    (h : ∀ id, admits id → weaker id) : roster.Grows weaker table later := by
  induction grows with
  | refl => exact Grows.refl
  | snoc _ admitted fresh known settled assembled ih =>
    exact Grows.snoc ih (h _ admitted) fresh known settled assembled

/-- What is settled at last was settled at first or has been let in. -/
theorem settled_cases (grows : roster.Grows admits table later) {id : CheckerId}
    (h : Settled later id) : Settled table id ∨ admits id := by
  induction grows with
  | refl => exact Or.inl h
  | snoc _ admitted _ _ _ _ ih =>
    rcases settled_snoc.1 h with h | h
    · exact ih h
    · exact Or.inr (h ▸ admitted)

/-- What is settled at last was settled at first or is registered. -/
theorem known_of_settled (grows : roster.Grows admits table later) {id : CheckerId}
    (h : Settled later id) : Settled table id ∨ ∃ checker, roster.checker? id = some checker := by
  induction grows with
  | refl => exact Or.inl h
  | snoc _ _ _ known _ _ ih =>
    rcases settled_snoc.1 h with h | rfl
    · exact ih h
    · exact Or.inr ⟨_, known⟩

/-- A checker that is not let in keeps being unsettled. -/
theorem lookup_eq_none (grows : roster.Grows admits table later) {id : CheckerId}
    (h : table.lookup id = none) (hout : ¬ admits id) : later.lookup id = none := by
  rw [← not_settled_iff] at h ⊢
  intro hsettled
  rcases grows.settled_cases hsettled with hold | hin
  · exact h hold
  · exact hout hin

end Grows

/-! ## What a grown table says -/

/-- The references of settled checkers are settled. -/
def LinkClosed (roster : Roster) (table : KeyTable) : Prop :=
  ∀ source target, Settled table source → roster.Links source target → Settled table target

/-- In a table that is closed under links, everything reached from a settled checker is settled. -/
theorem LinkClosed.settled_of_reaches {roster : Roster} {table : KeyTable}
    (closed : roster.LinkClosed table) {source target : CheckerId}
    (hreach : roster.Reaches source target) (h : Settled table source) : Settled table target := by
  induction hreach with
  | refl _ => exact h
  | step link _ ih => exact ih (closed _ _ h link)

/-- The empty table is closed under links. -/
theorem linkClosed_nil (roster : Roster) : roster.LinkClosed [] := by
  intro source target hsource _
  exact absurd hsource (not_settled_iff.2 rfl)

/-- A checker answers to a key if it reaches a checker that declares it. -/
def Answers (roster : Roster) (id : CheckerId) (key : String) : Prop :=
  ∃ target checker, roster.Reaches id target ∧ roster.checker? target = some checker ∧
    key ∈ checker.keys

/-- The entries hold the keys to which the checkers answer. -/
def Faithful (roster : Roster) (table : KeyTable) : Prop :=
  ∀ id keys, table.lookup id = some keys → ∀ key, key ∈ keys ↔ roster.Answers id key

/-- The empty table is faithful. -/
theorem faithful_nil (roster : Roster) : roster.Faithful [] := by
  intro id keys hkeys
  exact absurd hkeys (by simp)

/-- A checker answers to its own keys and to those of its references, and to no others. -/
theorem answers_iff {roster : Roster} {id : CheckerId} {checker : Checker}
    (known : roster.checker? id = some checker) (key : String) :
    roster.Answers id key ↔
      key ∈ checker.keys ∨ ∃ target ∈ checker.references, roster.Answers target key := by
  constructor
  · rintro ⟨target, found, hreach, hfound, hkey⟩
    rcases hreach.cases_first with rfl | ⟨middle, hlink, honward⟩
    · rw [known] at hfound
      rw [Option.some.inj hfound]
      exact Or.inl hkey
    · exact Or.inr ⟨middle, (links_of_checker? known).1 hlink, target, found, honward, hfound, hkey⟩
  · rintro (hkey | ⟨middle, hmem, target, found, hreach, hfound, hkey⟩)
    · exact ⟨id, checker, Reaches.refl id, known, hkey⟩
    · exact ⟨target, found, Reaches.step ((links_of_checker? known).2 hmem) hreach, hfound, hkey⟩

namespace Grows

variable {roster : Roster} {admits : CheckerId → Prop} {table later : KeyTable}

/-- A table that was closed under links is closed when it has grown. -/
theorem linkClosed (grows : roster.Grows admits table later) (h : roster.LinkClosed table) :
    roster.LinkClosed later := by
  induction grows with
  | refl => exact h
  | snoc _ _ _ known settled _ ih =>
    intro source target hsource hlink
    rw [settled_snoc] at hsource ⊢
    left
    rcases hsource with hsource | rfl
    · exact ih source target hsource hlink
    · exact settled target ((links_of_checker? known).1 hlink)

/-- A faithful table is faithful when it has grown. -/
theorem faithful (grows : roster.Grows admits table later) (h : roster.Faithful table) :
    roster.Faithful later := by
  induction grows with
  | refl => exact h
  | snoc _ _ fresh known settled assembled ih =>
    intro other found hfound key
    rcases (lookup_snoc fresh).1 hfound with hfound | ⟨rfl, rfl⟩
    · exact ih other found hfound key
    · rw [assembled key, answers_iff known key]
      -- the references are in the table already, so what it grants them is what they answer to
      refine or_congr Iff.rfl (exists_congr fun target => and_congr_right fun hmem => ?_)
      obtain ⟨keys, hkeys⟩ := settled target hmem
      constructor
      · rintro ⟨others, hothers, hkey⟩
        exact (ih target others hothers key).1 hkey
      · intro hanswers
        exact ⟨keys, hkeys, (ih target keys hkeys key).2 hanswers⟩

/-- **No checker that was added lies on a cycle**, if the table was closed under links. -/
theorem not_transGen_self (grows : roster.Grows admits table later) (h : roster.LinkClosed table)
    {id : CheckerId} (settled : Settled later id) (new : ¬ Settled table id) :
    ¬ Relation.TransGen roster.Links id id := by
  induction grows with
  | refl => exact absurd settled new
  | snoc earlier _ fresh known ready _ ih =>
    rcases settled_snoc.1 settled with hold | rfl
    · exact ih hold
    · intro hcycle
      obtain ⟨middle, hlink, honward⟩ := Relation.TransGen.head'_iff.1 hcycle
      have hmiddle := ready middle ((links_of_checker? known).1 hlink)
      rw [← reaches_iff_reflTransGen] at honward
      -- the references were settled already, so the cycle would have settled its own start
      have hid := (earlier.linkClosed h).settled_of_reaches honward hmiddle
      exact not_settled_iff.2 fresh hid

end Grows

end Roster

end Suppression
