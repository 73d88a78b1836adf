import AssetCache.Proofs.Json.Tokens

/-!
# Written values are read back

A text denotes a value for a reader if the reader takes it for that value, whatever follows it.
Strings, words and values that may be null, as they are written, denote themselves; and an object
denotes what its members make of a record, taken one after the other in the order they stand in.
When every member is one of a list, with a name of its own, that order makes no difference.
-/

namespace AssetCache.Json

variable {ε P α β : Type} {text : List Char} {ts : List Token}

/-- The reader takes a text for a value, whatever follows it. -/
def Denotes (read : Reader ε α) (text : List Char) (value : α) : Prop :=
  ∃ ts, Spells text ts ∧ ∀ rest, read (ts ++ rest) = .ok (value, rest)

lemma readText_of_denotes {malformed : ε} {read : Reader ε α} {value : α}
    (denotes : Denotes read text value) : readText malformed read text = .ok value := by
  obtain ⟨ts, spells, reads⟩ := denotes
  have whole := reads []
  rw [List.append_nil] at whole
  rw [readText, spells.tokens_eq, whole]
  rfl

/-! ### Values -/

lemma Denotes.map {read : Reader ε α} {value : α} (denotes : Denotes read text value)
    (f : α → β) :
    Denotes (fun tokens => do let (value, rest) ← read tokens; return (f value, rest)) text
      (f value) := by
  obtain ⟨ts, spells, reads⟩ := denotes
  refine ⟨ts, spells, fun rest => ?_⟩
  simp only [reads rest]
  rfl

lemma denotes_string (malformed : ε) (content : List Char) :
    Denotes (readString malformed) (string content) content :=
  ⟨_, spells_string content, fun _ => rfl⟩

/-- Words are read back over their whole range. -/
lemma denotes_word (malformed : ε) (word : UInt64) :
    Denotes (readWord malformed) (natural word.toNat) word := by
  refine ⟨_, spells_natural word.toNat, fun rest => ?_⟩
  have all_digits : (natural word.toNat).all Char.isDigit :=
    List.all_eq_true.2 fun c => isDigit_of_mem_natural
  have fits : word.toNat < UInt64.size := word.toNat_lt
  simp only [List.singleton_append, readWord, natOf_natural, all_digits, fits, decide_true,
    Bool.and_self, ↓reduceIte]
  exact congrArg (fun word => Except.ok (word, rest)) word.ofNat_toNat

lemma denotes_null (read : Reader ε α) : Denotes (readOptional read) ['n', 'u', 'l', 'l'] none :=
  ⟨[.null], spells_of_token rfl fun _ _ => rfl, fun _ => rfl⟩

/-- A string is not null. -/
lemma denotes_optional_string (malformed : ε) (content : Option (List Char)) :
    Denotes (readOptional (readString malformed)) (optional string content) content := by
  cases content with
  | none => exact denotes_null (readString malformed)
  | some content => exact ⟨_, spells_string content, fun _ => rfl⟩

/-! ### Members -/

/-- A member of an object is taken into a record that is partly read. -/
def Schema.Takes (schema : Schema ε P α) (record : P) (member : String × List Char) (record' : P) :
    Prop :=
  ∃ field, (schema.fields.find? fun field => field.name.toList = member.1.toList) = some field ∧
    Denotes (field.read record) member.2 record'

/-- The members of an object are taken into a record, one after the other. -/
def Schema.TakesAll (schema : Schema ε P α) : P → List (String × List Char) → P → Prop
  | record, [], record' => record = record'
  | record, member :: members, record' =>
    ∃ between, schema.Takes record member between ∧ schema.TakesAll between members record'

/-- A field that comes once is taken in if it is not there yet. -/
lemma Schema.takes_once {schema : Schema ε P α} {malformed : ε} {name : String}
    {get : P → Option β} {set : P → β → P} {read : Reader ε β} {record record' : P} {value : β}
    (known : (schema.fields.find? fun field => field.name.toList = name.toList) =
      some (.once malformed name get set read))
    (missing : get record = none) (denotes : Denotes read text value)
    (taken : set record value = record') : schema.Takes record (name, text) record' := by
  obtain ⟨ts, spells, reads⟩ := denotes
  refine ⟨_, known, ts, spells, fun rest => ?_⟩
  simp only [Field.once, missing, reads rest]
  rw [← taken]
  rfl

lemma stops_cons {c : Char} (other : c.isDigit = false ∧ c ≠ '.' ∧ c ≠ 'e' ∧ c ≠ 'E') :
    Stops (c :: text) := by
  intro d first
  rwa [← Option.some.inj first]

lemma spells_member (name : String) (spells : Spells text ts) :
    Spells (member name text) (.string (some name.toList) :: .colon :: ts) := by
  have colon := spells.mark ':' .colon rfl fun _ => rfl
  exact (spells_string name.toList).append colon fun _ _ => stops_cons (by decide)

/-- A member is read, and then the others if a comma follows it. -/
lemma Schema.Takes.reads {schema : Schema ε P α} {record record' : P}
    {name : String} (takes : schema.Takes record (name, text) record') :
    ∃ ts, Spells (member name text) ts ∧ 0 < ts.length ∧ ∀ fuel rest,
      schema.members (fuel + 1) record (ts ++ .comma :: rest) =
        schema.members fuel record' rest ∧
      schema.members (fuel + 1) record (ts ++ .closeBrace :: rest) = .ok (record', rest) := by
  obtain ⟨field, known, ts, spells, reads⟩ := takes
  refine ⟨_, spells_member name spells, Nat.succ_pos _, fun fuel rest => ?_⟩
  simp only [List.cons_append, Schema.members, known, reads]
  exact ⟨rfl, rfl⟩

/-- The members of an object are read, up to the brace that closes it. -/
lemma Schema.TakesAll.reads {schema : Schema ε P α} {record record' : P}
    {first : String × List Char} {members : List (String × List Char)}
    (takes : schema.TakesAll record (first :: members) record') :
    ∃ ts, Spells (separated ((first :: members).map fun (name, text) => member name text) ++
        ['\x7d']) ts ∧ members.length < ts.length ∧
      ∀ fuel rest, members.length < fuel →
        schema.members fuel record (ts ++ rest) = .ok (record', rest) := by
  induction members generalizing record first with
  | nil =>
    obtain ⟨_, takes, rfl⟩ := takes
    obtain ⟨ts, spells, some_token, reads⟩ := takes.reads
    refine ⟨ts ++ [.closeBrace], ?_, ?_, fun fuel rest enough => ?_⟩
    · exact spells.append (spells_of_token rfl fun _ _ => rfl) fun _ _ => stops_cons (by decide)
    · simp
    · obtain ⟨fuel, rfl⟩ := Nat.exists_eq_succ_of_ne_zero (Nat.ne_of_gt enough)
      rw [List.append_assoc]
      exact (reads fuel rest).2
  | cons second members ih =>
    obtain ⟨between, takes, others⟩ := takes
    obtain ⟨ts, spells, some_token, reads⟩ := takes.reads
    obtain ⟨us, spells', more, reads'⟩ := ih others
    refine ⟨ts ++ .comma :: us, ?_, ?_, fun fuel rest enough => ?_⟩
    · have comma := spells'.mark ',' .comma rfl fun _ => rfl
      have both := spells.append comma fun _ _ => stops_cons (by decide)
      simpa [separated] using both
    · simp only [List.length_cons, List.length_append]
      omega
    · obtain ⟨fuel, rfl⟩ := Nat.exists_eq_succ_of_ne_zero (Nat.ne_zero_of_lt enough)
      rw [List.append_assoc, List.cons_append, (reads fuel _).1]
      exact reads' fuel rest (Nat.lt_of_succ_lt_succ enough)

/-- An object denotes the record that its members make up. -/
lemma Schema.TakesAll.denotes {schema : Schema ε P α} {record : P} {value : α}
    {members : List (String × List Char)} (takes : schema.TakesAll schema.start members record)
    (finish : schema.finish record = some value) : Denotes schema.read (object members) value := by
  cases members with
  | nil =>
    cases takes
    have closing : Spells ['\x7d'] [.closeBrace] := spells_of_token rfl fun _ _ => rfl
    refine ⟨_, closing.mark '\x7b' .openBrace rfl fun _ => rfl, fun rest => ?_⟩
    simp [Schema.read, finish, bind, Except.bind, pure, Except.pure]
  | cons first members =>
    obtain ⟨ts, spells, more, reads⟩ := takes.reads
    refine ⟨_, spells.mark '\x7b' .openBrace rfl fun _ => rfl, fun rest => ?_⟩
    have read := reads (ts ++ rest).length rest (by rw [List.length_append]; omega)
    have unclosed (after : List Token) : ts ++ rest = .closeBrace :: after → False := by
      intro closed
      rw [closed] at read
      contradiction
    rw [List.cons_append, Schema.read, read]
    · simp [finish, bind, Except.bind, pure, Except.pure]
    · exact unclosed

/-- Members whose names are not taken yet are taken one after the other, if each may be taken
whenever its own name is not. -/
lemma Schema.takesAll_of_nodup {schema : Schema ε P α} {members : List (String × List Char)}
    {partly : List String → P} {done : List String} (distinct : (members.map Prod.fst).Nodup)
    (fresh : ∀ member ∈ members, member.1 ∉ done)
    (takes : ∀ done, ∀ member ∈ members, member.1 ∉ done →
      schema.Takes (partly done) member (partly (member.1 :: done))) :
    schema.TakesAll (partly done) members (partly ((members.map Prod.fst).reverse ++ done)) := by
  induction members generalizing done with
  | nil => rfl
  | cons member members ih =>
    obtain ⟨apart, distinct⟩ := List.nodup_cons.1 distinct
    have rest : ∀ other ∈ members, other.1 ∉ member.1 :: done := by
      intro other among
      rw [List.mem_cons, not_or]
      constructor
      · intro same
        exact apart (same ▸ List.mem_map_of_mem among)
      · exact fresh other (List.mem_cons_of_mem _ among)
    refine ⟨partly (member.1 :: done), ?_, ?_⟩
    · exact takes done member List.mem_cons_self (fresh member List.mem_cons_self)
    · have others := ih distinct rest fun done other among =>
        takes done other (List.mem_cons_of_mem _ among)
      rwa [List.map_cons, List.reverse_cons, List.append_assoc]

/-- A record in whatever order its members are written. What is read of it at any time depends on
the members that are taken in alone, not on their order. -/
lemma Schema.denotes_of_perm {schema : Schema ε P α} {members written : List (String × List Char)}
    {value : α} (partly : List String → P) (start : partly [] = schema.start)
    (distinct : (members.map Prod.fst).Nodup)
    (takes : ∀ done, ∀ member ∈ members, member.1 ∉ done →
      schema.Takes (partly done) member (partly (member.1 :: done)))
    (finish : ∀ done, (∀ member ∈ members, member.1 ∈ done) →
      schema.finish (partly done) = some value)
    (order : written.Perm members) : Denotes schema.read (object written) value := by
  have all : schema.TakesAll schema.start written
      (partly ((written.map Prod.fst).reverse ++ [])) := by
    rw [← start]
    apply takesAll_of_nodup
    · exact (order.map Prod.fst).nodup_iff.2 distinct
    · exact fun _ _ => List.not_mem_nil
    · exact fun done member among => takes done member (order.mem_iff.1 among)
  apply all.denotes
  apply finish
  intro member among
  rw [List.append_nil, List.mem_reverse]
  exact List.mem_map_of_mem (order.mem_iff.2 among)

end AssetCache.Json
