import FleetConsole.Json.Reader

/-!
# Records in any order

A record whose fields are independent of one another is read the same from its members in any order,
as far as it can be read (`putMembers_perm`).  Only for a record that cannot be read does the order
matter: it decides which problem is reported.

`Takes` lists all that a member of a readable record can do.  A field that has come does not come
again (`names?_ne_of_mem_seen`), and that it has come matters to no other member
(`putMembers_cons_seen`).
-/

namespace FleetConsole.Json.Reader

/-! ## Readings that succeed -/

section Success

variable {β γ : Type} {attempt : Except Problem β} {result : γ}

theorem exists_of_bind_eq_ok {next : β → Except Problem γ}
    (h : (attempt >>= next) = .ok result) :
    ∃ value, attempt = .ok value ∧ next value = .ok result := by
  cases attempt with
  | error problem => cases h
  | ok value => exact ⟨value, rfl, h⟩

theorem exists_of_map_eq_ok {f : β → γ} (h : attempt.map f = .ok result) :
    ∃ value, attempt = .ok value ∧ f value = result := by
  cases attempt with
  | error problem => cases h
  | ok value => exact ⟨value, rfl, Except.ok.inj h⟩

theorem flaw?_of_skip {d : Document} (h : skip d = .ok ()) : d.flaw? = none := by
  unfold skip at h
  cases hflaw : d.flaw? with
  | none => rfl
  | some flaw =>
      rw [hflaw] at h
      cases h

end Success

namespace Shape

variable {κ σ : Type} [DecidableEq κ] {shape : Shape κ σ} {seen : List κ} {record next last : σ}

/-- The ways in which a member is taken: the fields that have come after it, and the record. -/
inductive Takes (shape : Shape κ σ) (seen : List κ) (record : σ) :
    Quotation × Document → List κ → σ → Prop
  | skipped {key : Quotation} {d : Document} {name : String} (hname : key.text = .ok name)
      (hfield : shape.field? name = none) (hflaw : d.flaw? = none) :
      Takes shape seen record (key, d) seen record
  | put {key : Quotation} {d : Document} {name : String} {k : κ} {next : σ}
      (hname : key.text = .ok name) (hfield : shape.field? name = some k) (hnew : k ∉ seen)
      (hput : shape.put k record d = .ok next) :
      Takes shape seen record (key, d) (k :: seen) next

/-- A member that is taken leaves the others to be read. -/
theorem Takes.putMembers_cons {member : Quotation × Document} {after : List κ}
    (h : Takes shape seen record member after next) (rest : List (Quotation × Document)) :
    shape.putMembers seen record (member :: rest) = shape.putMembers after next rest := by
  cases h with
  | skipped hname hfield hflaw =>
      simp only [putMembers, hname, bind, Except.bind, hfield, skip, hflaw]
  | put hname hfield hnew hput =>
      simp only [putMembers, hname, bind, Except.bind, hfield, if_neg hnew, hput]

/-- In a record that can be read every member is taken. -/
theorem exists_takes {member : Quotation × Document} {rest : List (Quotation × Document)}
    (h : shape.putMembers seen record (member :: rest) = .ok last) :
    ∃ after next, Takes shape seen record member after next ∧
      shape.putMembers after next rest = .ok last := by
  obtain ⟨key, d⟩ := member
  rw [putMembers] at h
  obtain ⟨name, hname, hmember⟩ := exists_of_bind_eq_ok h
  cases hfield : shape.field? name with
  | none =>
      simp only [hfield] at hmember
      obtain ⟨⟨⟩, hskip, hrest⟩ := exists_of_bind_eq_ok hmember
      exact ⟨seen, record, .skipped hname hfield (flaw?_of_skip hskip), hrest⟩
  | some k =>
      simp only [hfield] at hmember
      split at hmember
      · cases hmember
      · rename_i hnew
        obtain ⟨next, hput, hrest⟩ := exists_of_bind_eq_ok hmember
        exact ⟨k :: seen, next, .put hname hfield hnew hput, hrest⟩

/-! ## Members before others -/

/-- The field that a key names. -/
def names? (shape : Shape κ σ) (key : Quotation) : Option κ := key.text.toOption.bind shape.field?

/-- The fields that have come, the last one first. -/
def come (shape : Shape κ σ) (seen : List κ) : List (Quotation × Document) → List κ
  | [] => seen
  | (key, _) :: rest => come shape ((shape.names? key).toList ++ seen) rest

omit [DecidableEq κ] in
theorem names?_of_text {key : Quotation} {k : κ} {name : String} (htext : key.text = .ok name)
    (hfield : shape.field? name = some k) : shape.names? key = some k := by
  simp [names?, htext, Except.toOption, hfield]

omit [DecidableEq κ] in
theorem exists_of_names? {key : Quotation} {k : κ} (h : shape.names? key = some k) :
    ∃ name, key.text = .ok name ∧ shape.field? name = some k := by
  unfold names? at h
  cases htext : key.text with
  | error problem =>
      rw [htext] at h
      cases h
  | ok name =>
      rw [htext] at h
      exact ⟨name, rfl, h⟩

omit [DecidableEq κ] in
theorem text_of_names? {key : Quotation} {k : κ} (h : shape.names? key = some k) :
    key.text = .ok (shape.name k) := by
  obtain ⟨name, htext, hfield⟩ := exists_of_names? h
  have hname := List.find?_some hfield
  rw [htext, of_decide_eq_true hname]

omit [DecidableEq κ] in
theorem Takes.after_eq {member : Quotation × Document} {after : List κ}
    (h : Takes shape seen record member after next) :
    after = (shape.names? member.1).toList ++ seen := by
  cases h with
  | skipped hname hfield _ => simp [names?, hname, Except.toOption, hfield]
  | put hname hfield _ _ => simp [names?, hname, Except.toOption, hfield]

omit [DecidableEq κ] in
theorem mem_come_iff {k : κ} {members : List (Quotation × Document)} :
    k ∈ shape.come seen members ↔ k ∈ seen ∨ ∃ member ∈ members, shape.names? member.1 = some k := by
  induction members generalizing seen with
  | nil => simp [come]
  | cons member rest ih =>
      simp only [come, ih, List.mem_append, Option.mem_toList, List.mem_cons, exists_eq_or_imp]
      rw [or_assoc, or_left_comm]

theorem putMembers_append {front : List (Quotation × Document)}
    (h : shape.putMembers seen record front = .ok next) (back : List (Quotation × Document)) :
    shape.putMembers seen record (front ++ back) =
      shape.putMembers (shape.come seen front) next back := by
  induction front generalizing seen record with
  | nil =>
      obtain rfl := Except.ok.inj h
      rfl
  | cons member front ih =>
      obtain ⟨after, between, htakes, hfront⟩ := exists_takes h
      rw [List.cons_append, htakes.putMembers_cons, ih hfront, htakes.after_eq]
      rfl

theorem exists_of_putMembers_append {front back : List (Quotation × Document)}
    (h : shape.putMembers seen record (front ++ back) = .ok last) :
    ∃ next, shape.putMembers seen record front = .ok next := by
  induction front generalizing seen record with
  | nil => exact ⟨record, rfl⟩
  | cons member front ih =>
      obtain ⟨after, between, htakes, hrest⟩ := exists_takes h
      obtain ⟨next, hfront⟩ := ih hrest
      exact ⟨next, by rw [htakes.putMembers_cons, hfront]⟩

/-! ## Members in another order -/

/-- The order in which the fields have come is of no matter. -/
theorem putMembers_congr {other : List κ} (h : ∀ k, k ∈ seen ↔ k ∈ other) (record : σ)
    (members : List (Quotation × Document)) :
    shape.putMembers seen record members = shape.putMembers other record members := by
  induction members generalizing seen other record with
  | nil => rfl
  | cons member rest ih =>
      have hput (k : κ) (record : σ) : shape.putMembers (k :: seen) record rest =
          shape.putMembers (k :: other) record rest := ih (by simp [h]) record
      simp only [putMembers, h, hput, ih h]

/-- What one field is does not depend on what another one is. -/
def Independent (shape : Shape κ σ) : Prop :=
  ∀ {k other : κ} {d e : Document} {record next last : σ}, k ≠ other →
    shape.put k record d = .ok next → shape.put other next e = .ok last →
    ∃ between, shape.put other record e = .ok between ∧ shape.put k between d = .ok last

omit [DecidableEq κ] in
/-- Two members can be taken the other way round. -/
theorem Takes.swap (hindependent : shape.Independent) {first second : Quotation × Document}
    {between after : List κ} (hfirst : Takes shape seen record first between next)
    (hsecond : Takes shape between next second after last) :
    ∃ earlier swapped later, Takes shape seen record second earlier swapped ∧
      Takes shape earlier swapped first later last ∧ ∀ k, k ∈ later ↔ k ∈ after := by
  cases hfirst with
  | skipped hname hfield hflaw =>
      exact ⟨after, last, after, hsecond, .skipped hname hfield hflaw, fun _ => Iff.rfl⟩
  | put hname hfield hnew hput =>
      cases hsecond with
      | skipped hother hunknown hflaw =>
          exact ⟨seen, record, _, .skipped hother hunknown hflaw, .put hname hfield hnew hput,
            fun _ => Iff.rfl⟩
      | @put _ _ _ other _ hother hknown hfresh hthen =>
          obtain ⟨hne, hunseen⟩ := not_or.mp (mt List.mem_cons.mpr hfresh)
          obtain ⟨swapped, hswapped, hback⟩ := hindependent (Ne.symm hne) hput hthen
          refine ⟨_, swapped, _, .put hother hknown hunseen hswapped,
            .put hname hfield ?_ hback, ?_⟩
          · rw [List.mem_cons, not_or]
            exact ⟨Ne.symm hne, hnew⟩
          · intro field
            simp only [List.mem_cons]
            exact or_left_comm

/-- **A record that can be read is read the same in any order.** -/
theorem putMembers_perm (hindependent : shape.Independent)
    {members others : List (Quotation × Document)} (hperm : members.Perm others)
    (h : shape.putMembers seen record members = .ok last) :
    shape.putMembers seen record others = .ok last := by
  induction hperm generalizing seen record with
  | nil => exact h
  | cons member _ ih =>
      obtain ⟨after, next, htakes, hrest⟩ := exists_takes h
      rw [htakes.putMembers_cons, ih hrest]
  | swap second first rest =>
      obtain ⟨between, next, hfirst, hrest⟩ := exists_takes h
      obtain ⟨after, last, hsecond, hrest⟩ := exists_takes hrest
      obtain ⟨earlier, swapped, later, hsecond, hfirst, hseen⟩ := hfirst.swap hindependent hsecond
      rw [hsecond.putMembers_cons, hfirst.putMembers_cons, putMembers_congr hseen, hrest]
  | trans _ _ hfirst hsecond => exact hsecond (hfirst h)

/-! ## Fields that have come before -/

omit [DecidableEq κ] in
theorem Takes.not_mem {member : Quotation × Document} {after : List κ} {k : κ}
    (h : Takes shape seen record member after next) (hk : shape.names? member.1 = some k) :
    k ∉ seen := by
  cases h with
  | skipped hname hfield =>
      simp only [names?, hname, Except.toOption, Option.bind_some, hfield] at hk
      cases hk
  | put hname hfield hnew =>
      simp only [names?, hname, Except.toOption, Option.bind_some, hfield] at hk
      obtain rfl := Option.some.inj hk
      exact hnew

/-- A field that has come does not come again in a record that can be read. -/
theorem names?_ne_of_mem_seen {k : κ} {members : List (Quotation × Document)} (hk : k ∈ seen)
    (h : shape.putMembers seen record members = .ok last) :
    ∀ member ∈ members, shape.names? member.1 ≠ some k := by
  induction members generalizing seen record with
  | nil => nofun
  | cons member rest ih =>
      obtain ⟨after, next, htakes, hrest⟩ := exists_takes h
      refine List.forall_mem_cons.mpr ⟨fun hnames => htakes.not_mem hnames hk, ?_⟩
      apply ih _ hrest
      rw [htakes.after_eq]
      exact List.mem_append_right _ hk

/-- A record with a field that comes twice cannot be read. -/
theorem putMembers_ne_ok_of_twice {k : κ} {first second : Quotation × Document}
    (hfirst : shape.names? first.1 = some k) (hsecond : shape.names? second.1 = some k)
    (front middle back : List (Quotation × Document)) :
    shape.putMembers seen record (front ++ first :: (middle ++ second :: back)) ≠ .ok last := by
  intro h
  obtain ⟨reached, hfront⟩ := exists_of_putMembers_append h
  rw [putMembers_append hfront] at h
  obtain ⟨after, next, htakes, hrest⟩ := exists_takes h
  have hk : k ∈ after := by
    rw [htakes.after_eq, hfirst]
    exact List.mem_append_left _ (List.mem_singleton_self k)
  exact names?_ne_of_mem_seen hk hrest second (List.mem_append_right _ (List.mem_cons_self ..))
    hsecond

/-- Whether a field has come matters only to the members that name it. -/
theorem putMembers_cons_seen {k : κ} {members : List (Quotation × Document)}
    (hk : ∀ member ∈ members, shape.names? member.1 ≠ some k) (seen : List κ) (record : σ) :
    shape.putMembers (k :: seen) record members = shape.putMembers seen record members := by
  induction members generalizing seen record with
  | nil => rfl
  | cons member rest ih =>
      obtain ⟨key, d⟩ := member
      obtain ⟨hkey, hrest⟩ := List.forall_mem_cons.mp hk
      rw [putMembers, putMembers]
      cases hname : key.text with
      | error problem => rfl
      | ok name =>
          simp only [bind, Except.bind]
          cases hfield : shape.field? name with
          | none =>
              simp only [ih hrest]
          | some field =>
              have hne : field ≠ k := by
                rintro rfl
                exact hkey (names?_of_text hname hfield)
              have hswap (record : σ) : shape.putMembers (field :: k :: seen) record rest =
                  shape.putMembers (field :: seen) record rest := by
                rw [← ih hrest (field :: seen)]
                exact putMembers_congr (fun other => by simp only [List.mem_cons, or_left_comm])
                  record rest
              simp only [List.mem_cons, hne, false_or, hswap]

/-! ## One more member -/

variable {members all : List (Quotation × Document)} {key : Quotation} {d : Document} {k : κ}

/-- A field that has not come yet is read into what the other members have made. -/
theorem putMembers_concat (h : shape.putMembers seen record members = .ok next)
    (hkey : shape.names? key = some k) (hnew : k ∉ shape.come seen members)
    (hput : shape.put k next d = .ok last) :
    shape.putMembers seen record (members ++ [(key, d)]) = .ok last := by
  obtain ⟨name, htext, hfield⟩ := exists_of_names? hkey
  rw [putMembers_append h, (Takes.put htext hfield hnew hput).putMembers_cons]
  rfl

/-- Among members that can be read, the problem of one that cannot is the one that is reported,
wherever it stands. -/
theorem putMembers_error (hindependent : shape.Independent)
    (h : shape.putMembers seen record members = .ok last) (hall : all.Perm ((key, d) :: members))
    (hkey : shape.names? key = some k) (hnew : k ∉ shape.come seen members) {problem : Problem}
    (hput : ∀ record, shape.put k record d = .error problem) :
    shape.putMembers seen record all = .error problem := by
  obtain ⟨front, back, rfl⟩ := List.append_of_mem (hall.mem_iff.mpr (List.mem_cons_self ..))
  have hothers : (front ++ back).Perm members :=
    (List.perm_middle.symm.trans hall).cons_inv
  obtain ⟨next, hfront⟩ :=
    exists_of_putMembers_append (putMembers_perm hindependent hothers.symm h)
  have hfresh : k ∉ shape.come seen front := by
    intro hcome
    apply hnew
    rw [mem_come_iff] at hcome ⊢
    obtain hseen | ⟨member, hmember, hnames⟩ := hcome
    · exact .inl hseen
    · exact .inr ⟨member, hothers.subset (List.mem_append_left _ hmember), hnames⟩
  obtain ⟨name, htext, hfield⟩ := exists_of_names? hkey
  rw [putMembers_append hfront]
  simp only [putMembers, htext, bind, Except.bind, hfield, if_neg hfresh, hput]

/-! ## Complete records -/

variable {flaw : Option Flaw}

omit [DecidableEq κ] in
/-- An element is read as the first of the fields that are still to come. -/
theorem exists_of_putElements_cons {fields : List κ} {elements : List Document}
    (h : shape.putElements flaw (k :: fields) record (d :: elements) = .ok last) :
    ∃ next, shape.put k record d = .ok next ∧
      shape.putElements flaw fields next elements = .ok last := by
  rw [putElements] at h
  exact exists_of_bind_eq_ok h

omit [DecidableEq κ] in
theorem eq_of_putElements_nil {fields : List κ}
    (h : shape.putElements flaw fields record [] = .ok last) : last = record := by
  cases fields with
  | nil | cons =>
      rw [putElements] at h
      obtain ⟨-, -, hrecord⟩ := exists_of_map_eq_ok h
      exact hrecord.symm

omit [DecidableEq κ] in
theorem flaw_of_putElements {fields : List κ} {elements : List Document}
    (h : shape.putElements flaw fields record elements = .ok last) : flaw = none := by
  induction elements generalizing fields record with
  | nil =>
      cases flaw with
      | none => rfl
      | some flaw =>
          cases fields with
          | cons => cases h
          | nil =>
              cases flaw with
              | endOfText inside => cases inside <;> cases h
              | _ => cases h
  | cons d rest ih =>
      cases fields with
      | nil => cases h
      | cons k fields =>
          obtain ⟨next, -, hrest⟩ := exists_of_putElements_cons h
          exact ih hrest

theorem mismatch_ne_ok {β : Type} (wanted : String) (d : Document) (value : β) :
    mismatch wanted d ≠ .ok value := by
  unfold mismatch
  cases found d <;> nofun

variable {start : σ} {result : σ × Option Nat}

theorem putMembers_of_read (h : shape.read start (.object members flaw) = .ok result) :
    flaw = none ∧ shape.putMembers [] start members = .ok result.1 := by
  rw [read] at h
  obtain ⟨record, hput, hend⟩ := exists_of_bind_eq_ok h
  cases flaw with
  | some flaw => cases hend
  | none =>
      obtain rfl := Except.ok.inj hend
      exact ⟨rfl, hput⟩

theorem putElements_of_read {elements : List Document}
    (h : shape.read start (.list elements flaw) = .ok result) :
    shape.putElements flaw shape.fields start elements = .ok result.1 := by
  rw [read] at h
  obtain ⟨record, hput, hend⟩ := exists_of_bind_eq_ok h
  obtain rfl := Except.ok.inj hend
  exact hput

/-- A record that can be read is complete. -/
theorem flaw?_of_read (h : shape.read start d = .ok result) : d.flaw? = none := by
  cases d with
  | null | boolean | number | string | broken => exact absurd h (mismatch_ne_ok _ _ _)
  | list elements flaw => exact flaw_of_putElements (putElements_of_read h)
  | object members flaw => exact (putMembers_of_read h).1

end Shape

end FleetConsole.Json.Reader
