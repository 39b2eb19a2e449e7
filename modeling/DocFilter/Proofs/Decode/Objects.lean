import DocFilter.Proofs.Decode.Reads

/-!
# Objects that decoders read

The members of an object may stand in any order. A record is read member by
member, whatever was met before. A map is read as its entries in the order of
their keys. A node is read in both orders of tag and content; from a buffer, if
the content comes first.
-/

namespace DocFilter.Decode

open Json (ReadAs MembersReadAs Outline Quoted Close)

variable {α κ δ : Type} {level : Nat}

/-! ## Members -/

/-- The members of an object with one member. -/
theorem members_single {members : List (Quoted × Outline)} {ordered : List (String × Json)}
    {name : String} {value : Json} (each : MembersReadAs members ordered)
    (same : ordered.Perm [(name, value)]) :
    ∃ (key : Quoted) (outline : Outline), members = [(key, outline)] ∧
      key.read = .ok name ∧ ReadAs outline value := by
  obtain rfl := List.perm_singleton.mp same
  cases each with
  | cons named readAs rest =>
      cases rest
      exact ⟨_, _, rfl, named, readAs⟩

/-- The members of an object with two members, in both orders. -/
theorem members_pair {members : List (Quoted × Outline)} {ordered : List (String × Json)}
    {name other : String} {value content : Json} (each : MembersReadAs members ordered)
    (same : ordered.Perm [(name, value), (other, content)]) :
    ∃ (key second : Quoted) (outline inner : Outline),
      (members = [(key, outline), (second, inner)] ∨ members = [(second, inner), (key, outline)]) ∧
        key.read = .ok name ∧ ReadAs outline value ∧
        second.read = .ok other ∧ ReadAs inner content := by
  rcases List.perm_pair.mp same with rfl | rfl
  · cases each with
    | cons named readAs rest =>
        cases rest with
        | cons called asRead rest =>
            cases rest
            exact ⟨_, _, _, _, .inl rfl, named, readAs, called, asRead⟩
  · cases each with
    | cons called asRead rest =>
        cases rest with
        | cons named readAs rest =>
            cases rest
            exact ⟨_, _, _, _, .inr rfl, named, readAs, called, asRead⟩

/-- A known member changes the draft. -/
theorem foldMembers_known {known : List String} {other : Outline → Result Unit}
    {accept : δ → String → Outline → Result δ} {close : Close} {draft next : δ} {key : Quoted}
    {name : String} {outline : Outline} {members : List (Quoted × Outline)}
    (named : key.read = .ok name) (listed : name ∈ known)
    (accepted : accept draft name outline = .ok next) :
    foldMembers known other accept close draft ((key, outline) :: members) =
      foldMembers known other accept close next members := by
  rw [foldMembers, named]
  simp only [ofFault_ok, ok_bind, if_pos (List.contains_iff_mem.mpr listed), accepted]

/-- Members that are accepted whatever was met before are all met in the end. -/
theorem foldMembers_met {known : List String} (other : Outline → Result Unit)
    (accept : δ → String → Outline → Result δ) (upTo : List String → δ)
    {members : List (Quoted × Outline)} {values : List (String × Json)} (met : List String)
    (each : MembersReadAs members values) (distinct : (values.map Prod.fst).Nodup)
    (new : ∀ member ∈ values, member.1 ∉ met) (listed : ∀ member ∈ values, member.1 ∈ known)
    (accepts : ∀ name value, (name, value) ∈ values → ∀ (met : List String) (outline : Outline),
      name ∉ met → ReadAs outline value →
        accept (upTo met) name outline = .ok (upTo (name :: met))) :
    ∃ all : List String, (∀ member ∈ values, member.1 ∈ all) ∧ (∀ name ∈ met, name ∈ all) ∧
      foldMembers known other accept .closed (upTo met) members = .ok (upTo all) := by
  induction values generalizing members met with
  | nil =>
      cases each
      exact ⟨met, fun _ none => (nomatch none), fun _ member => member, rfl⟩
  | cons head rest ih =>
      obtain ⟨name, value⟩ := head
      cases each with
      | cons named readAs others =>
          obtain ⟨unused, distinctRest⟩ := List.nodup_cons.mp distinct
          have newRest : ∀ member ∈ rest, member.1 ∉ name :: met := by
            intro member later again
            rcases List.mem_cons.mp again with same | before
            · exact unused (List.mem_map.mpr ⟨member, later, same⟩)
            · exact new member (List.mem_cons_of_mem _ later) before
          obtain ⟨all, metRest, metBefore, folded⟩ := ih (name :: met) others distinctRest newRest
            (fun member later => listed member (List.mem_cons_of_mem _ later))
            (fun name value later => accepts name value (List.mem_cons_of_mem _ later))
          have accepted := accepts name value List.mem_cons_self met _
            (new (name, value) List.mem_cons_self) readAs
          refine ⟨all, ?_, fun name before => metBefore name (List.mem_cons_of_mem _ before), ?_⟩
          · intro member position
            rcases List.mem_cons.mp position with rfl | later
            · exact metBefore name List.mem_cons_self
            · exact metRest member later
          · rw [foldMembers_known named (listed (name, value) List.mem_cons_self) accepted]
            exact folded

/-- A part that is not there yet is set. -/
theorem setOnce_new {name : String} {met : List String} {decode : Result α} {part : α}
    (new : name ∉ met) (decoded : decode = .ok part) :
    setOnce name (if name ∈ met then some part else none) decode = .ok (some part) := by
  rw [if_neg new, decoded]
  rfl

namespace Reads

/-! ## Records and maps -/

/-- A record is read if each of its parts is accepted and leads to a draft of the
parts met so far, and if the draft of all parts is the record. -/
theorem record {type : String} {names : List String} {draft : δ}
    {accept : Mode → δ → String → Outline → Result δ} {finish : δ → Result α}
    {parts : ItemsM α} {values : List (String × Json)} {result : α} (upTo : List String → δ)
    (start : upTo [] = draft) (distinct : (values.map Prod.fst).Nodup)
    (listed : ∀ member ∈ values, member.1 ∈ names)
    (accepts : ∀ name value, (name, value) ∈ values → ∀ (mode : Mode) (met : List String)
      (outline : Outline), name ∉ met → ReadAs outline value → mode.Holds level value.depth →
        accept mode (upTo met) name outline = .ok (upTo (name :: met)))
    (finished : ∀ all : List String, (∀ member ∈ values, member.1 ∈ all) →
      finish (upTo all) = .ok result) :
    Reads level (Decode.record type names draft accept finish parts) (.object values) result := by
  intro mode outline readAs holds
  obtain ⟨members, ordered, rfl, each, same⟩ := readAs.object_inv
  obtain ⟨inside, entered, room⟩ := holds.enter
  have roomEach : ∀ member ∈ values, inside.Holds level member.2.depth := fun member position =>
    room.mono (Json.memberDepths_le_iff.mp (Nat.le_refl _) member position)
  obtain ⟨all, met, -, folded⟩ := foldMembers_met ignore (accept inside) upTo [] each
    ((same.map Prod.fst).nodup_iff.mpr distinct) (fun _ _ none => nomatch none)
    (fun member position => listed member (same.mem_iff.mp position))
    (fun name value position met outline new readAs =>
      accepts name value (same.mem_iff.mp position) inside met outline new readAs
        (roomEach (name, value) (same.mem_iff.mp position)))
  have complete := finished all fun member position => met member (same.mem_iff.mpr position)
  rw [start] at folded
  simp only [Decode.record, entered, ok_bind, folded]
  exact complete

/-- A map is read as its entries in the order of their keys. -/
theorem map {entry : Decoder α} {encode : α → Json} {entries : List (String × α)}
    (sorted : Entries.Sorted entries)
    (each : ∀ member ∈ entries, Reads level entry (encode member.2) member.2) :
    Reads level (Decode.map entry)
      (.object (entries.map fun member => (member.1, encode member.2))) entries := by
  intro mode outline readAs holds
  obtain ⟨members, ordered, rfl, asRead, same⟩ := readAs.object_inv
  obtain ⟨inside, entered, room⟩ := holds.enter
  obtain ⟨written, rearranged, rfl⟩ : ∃ written : List (String × α), written.Perm entries ∧
      ordered = written.map fun member => (member.1, encode member.2) := by
    have composed := (congrFun (congrFun (List.eq_map_comp_perm (β := String × Json)
      fun member : String × α => (member.1, encode member.2)) ordered) entries).mpr same
    obtain ⟨written, mapped, rearranged⟩ := composed
    exact ⟨written, rearranged, mapped⟩
  have roomEach : ∀ member ∈ written, inside.Holds level (encode member.2).depth :=
    fun member position => room.mono (Json.memberDepths_le_iff.mp (Nat.le_refl _) _
      (List.mem_map_of_mem (f := fun member : String × α => (member.1, encode member.2))
        (rearranged.mem_iff.mp position)))
  have readEach : ∀ member ∈ written, Reads level entry (encode member.2) member.2 :=
    fun member position => each member (rearranged.mem_iff.mp position)
  have decoded : ∀ held : List (String × α), mapMembers (entry inside) .closed held members =
      .ok (written.foldl (fun map member => Entries.insert member.1 member.2 map) held) := by
    clear rearranged same room readAs holds
    induction written generalizing members with
    | nil =>
        intro held
        cases asRead
        rfl
    | cons head rest ih =>
        intro held
        cases asRead with
        | cons named readAs others =>
            have read := readEach head List.mem_cons_self inside _ readAs
              (roomEach head List.mem_cons_self)
            have remaining := ih _ others
              (fun member later => roomEach member (List.mem_cons_of_mem _ later))
              (fun member later => readEach member (List.mem_cons_of_mem _ later))
            simp only [mapMembers, named, ok_bind, read]
            exact remaining _
  simp only [Decode.map, entered, ok_bind, decoded]
  rw [Entries.foldl_insert_of_perm sorted rearranged]

/-! ## Choices and nodes -/

section Tagged

variable {vocabulary : Vocabulary κ} {payload : κ → Payload α} {tag : String} {kind : κ}

/-- A choice is read as what its tag means. -/
theorem choice (known : vocabulary.named tag = .ok kind) :
    Reads level (Decode.choice vocabulary) (.tagged tag) kind := by
  intro mode outline readAs holds
  obtain ⟨members, ordered, rfl, each, same⟩ := readAs.object_inv
  obtain ⟨inside, entered, -⟩ := holds.enter
  obtain ⟨key, value, rfl, named, asRead⟩ := members_single each same
  have found := asRead.found_string
  have plain : vocabulary.plainTag inside value = .ok kind := by
    rw [Vocabulary.plainTag, found]
    exact known
  have accepted : acceptChoice vocabulary inside none "t" value = .ok (some kind) := by
    rw [acceptChoice, plain]
    rfl
  simp only [Decode.choice, entered, ok_bind]
  rw [foldMembers_known named List.mem_cons_self accepted]
  rfl

/-- The tag of a node is read as its kind. -/
theorem nodeTag (known : vocabulary.named tag = .ok kind) :
    Reads level vocabulary.nodeTag (.string tag) kind := by
  intro mode outline readAs _
  obtain ⟨literal, rfl, read⟩ := readAs.string_inv
  simp only [Vocabulary.nodeTag, read, ofFault_ok, ok_bind]
  exact known

/-- A node without content is read as the value of its kind. -/
theorem node_bare {result : α} (known : vocabulary.named tag = .ok kind)
    (absent : (payload kind).absent = .ok result) :
    Reads level (Decode.node vocabulary payload) (.tagged tag) result := by
  intro mode outline readAs holds
  obtain ⟨members, ordered, rfl, each, same⟩ := readAs.object_inv
  obtain ⟨inside, entered, room⟩ := holds.enter
  obtain ⟨key, value, rfl, named, asRead⟩ := members_single each same
  have read := Reads.nodeTag known inside value asRead (room.mono (Nat.zero_le _))
  have accepted : acceptNode vocabulary payload inside .nothing "t" value = .ok (.tag kind) := by
    simp only [acceptNode, read]
    rfl
  simp only [Decode.node, entered, ok_bind]
  rw [foldMembers_known named List.mem_cons_self accepted]
  exact absent

/-- A node with a content is read if the content is what its kind has. -/
theorem node_content {content : Json} {result : α} (known : vocabulary.named tag = .ok kind)
    (reads : Reads level ((payload kind).decode vocabulary.type) content result) :
    Reads (level + 1) (Decode.node vocabulary payload) (.node tag content) result := by
  intro mode outline readAs holds
  obtain ⟨members, ordered, rfl, each, same⟩ := readAs.object_inv
  obtain ⟨inside, entered, room⟩ := holds.descend
  obtain ⟨key, second, value, inner, order, named, asRead, called, filled⟩ :=
    members_pair each same
  have tagRead := Reads.nodeTag known inside value asRead (room.mono (Nat.zero_le _))
  have roomContent : inside.Holds level content.depth :=
    room.mono (Json.memberDepths_le_iff.mp (Nat.le_refl _) ("c", content) (by simp))
  simp only [Decode.node, entered, ok_bind]
  rcases order with rfl | rfl
  · have first : acceptNode vocabulary payload inside .nothing "t" value = .ok (.tag kind) := by
      simp only [acceptNode, tagRead]
      rfl
    have completed : acceptNode vocabulary payload inside (.tag kind) "c" inner =
        .ok (.complete result) := by
      simp only [acceptNode, reads inside inner filled roomContent]
      rfl
    rw [foldMembers_known named (by simp) first, foldMembers_known called (by simp) completed]
    rfl
  · have first : acceptNode vocabulary payload inside .nothing "c" inner =
        .ok (.content inner) := by
      simp only [acceptNode, roomContent.buffer filled]
      rfl
    have completed : acceptNode vocabulary payload inside (.content inner) "t" value =
        .ok (.complete result) := by
      simp only [acceptNode, tagRead, ok_bind, reads .buffered inner filled roomContent.buffered]
      rfl
    rw [foldMembers_known called (by simp) first, foldMembers_known named (by simp) completed]
    rfl

end Tagged

end Reads

end DocFilter.Decode
