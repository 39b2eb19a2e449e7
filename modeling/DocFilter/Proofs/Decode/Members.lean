import DocFilter.Proofs.Decode.Forms

/-!
# Objects that decoders accept

What is said of the members met so far, and of the draft they lead to, holds of all members
in the end. So a choice has a tag among its members, a node a tag and the content that goes
with it, a record each of its parts, and a map a member for each entry.
-/

namespace DocFilter

/-- The keys of a map after an entry is put where it belongs. -/
theorem Entries.mem_keys_insert {α : Type} {key name : String} {value : α}
    {entries : List (String × α)} :
    name ∈ (insert key value entries).map Prod.fst ↔
      name = key ∨ name ∈ entries.map Prod.fst := by
  induction entries with
  | nil => simp [insert]
  | cons head rest ih =>
      obtain ⟨first, held⟩ := head
      unfold insert
      split
      case isTrue => simp only [List.map_cons, List.mem_cons]
      case isFalse =>
          split
          case isTrue same =>
              subst same
              simp only [List.map_cons, List.mem_cons, or_self_left]
          case isFalse =>
              rw [List.map_cons, List.map_cons, List.mem_cons, List.mem_cons, ih]
              exact or_left_comm

namespace Decode

open Json (Outline Close Quoted)

variable {α δ κ : Type} {grammar : Grammar} {Spells : Mode → Outline → Json → Prop}

/-! ## Members met so far -/

theorem member_concat {members : List (Quoted × Outline)} {key : Quoted} {value outline : Outline}
    {name : String} :
    Member (members ++ [(key, value)]) name outline ↔
      Member members name outline ∨ outline = value ∧ key.read = .ok name := by
  simp only [Member, List.mem_append, List.mem_singleton, Prod.mk.injEq, or_and_right, exists_or]
  refine or_congr_right ⟨?_, ?_⟩
  · rintro ⟨_, ⟨rfl, same⟩, read⟩
    exact ⟨same, read⟩
  · rintro ⟨same, read⟩
    exact ⟨key, ⟨rfl, same⟩, read⟩

theorem member_cons {members : List (Quoted × Outline)} {key : Quoted} {value outline : Outline}
    {name : String} :
    Member ((key, value) :: members) name outline ↔
      outline = value ∧ key.read = .ok name ∨ Member members name outline := by
  simp only [Member, List.mem_cons, Prod.mk.injEq, or_and_right, exists_or]
  refine or_congr_left ⟨?_, ?_⟩
  · rintro ⟨_, ⟨rfl, same⟩, read⟩
    exact ⟨same, read⟩
  · rintro ⟨same, read⟩
    exact ⟨key, ⟨rfl, same⟩, read⟩

/-- A member with another name changes nothing. -/
theorem member_concat_other {members : List (Quoted × Outline)} {key : Quoted}
    {value outline : Outline} {name other : String} (read : key.read = .ok other)
    (different : other ≠ name) :
    Member (members ++ [(key, value)]) name outline ↔ Member members name outline := by
  rw [member_concat, read]
  refine or_iff_left ?_
  rintro ⟨-, same⟩
  cases same
  exact different rfl

/-- What each member preserves, be it known or passed over, holds of the draft in the end. -/
theorem foldMembers_invariant (Holds : List (Quoted × Outline) → δ → Prop) {known : List String}
    {other : Outline → Result Unit} {accept : δ → String → Outline → Result δ} {close : Close}
    (met : ∀ before key name value draft next, Holds before draft → key.read = .ok name →
      name ∈ known → accept draft name value = .ok next → Holds (before ++ [(key, value)]) next)
    (passed : ∀ before key name value draft, Holds before draft → key.read = .ok name →
      name ∉ known → Holds (before ++ [(key, value)]) draft)
    {members : List (Quoted × Outline)} {draft result : δ} (start : Holds [] draft)
    (folded : foldMembers known other accept close draft members = .ok result) :
    Holds members result := by
  have general (before : List (Quoted × Outline)) (held : Holds before draft) :
      Holds (before ++ members) result := by
    clear start
    induction members generalizing before draft with
    | nil =>
        obtain ⟨_, _, same⟩ := exists_of_bind_eq_ok folded
        cases same
        rw [List.append_nil]
        exact held
    | cons member rest ih =>
        obtain ⟨key, value⟩ := member
        obtain ⟨name, read, folded⟩ := exists_of_bind_eq_ok folded
        have named := eq_ok_of_ofFault read
        rw [List.append_cons]
        split at folded
        case isTrue listed =>
            obtain ⟨next, accepted, folded⟩ := exists_of_bind_eq_ok folded
            exact ih folded _ (met before key name value draft next held named
              (List.contains_iff_mem.mp listed) accepted)
        case isFalse unlisted =>
            obtain ⟨_, _, folded⟩ := exists_of_bind_eq_ok folded
            exact ih folded _ (passed before key name value draft held named
              fun listed => unlisted (List.contains_iff_mem.mpr listed))
  exact general [] start

/-- A part that is set was not there before. -/
theorem setOnce_cases {name : String} {part next : Option α} {decode : Result α}
    (once : setOnce name part decode = .ok next) :
    part = none ∧ ∃ value, decode = .ok value ∧ next = some value := by
  cases part with
  | some held => cases once
  | none =>
      obtain ⟨value, decoded, rfl⟩ := exists_of_map_eq_ok once
      exact ⟨rfl, value, decoded, rfl⟩

theorem required_cases {name : String} {part : Option α} {value : α}
    (found : required name part = .ok value) : part = some value := by
  cases part with
  | none => cases found
  | some held =>
      cases found
      rfl

/-! ## Tags -/

namespace Vocabulary

variable {vocabulary : Vocabulary κ} {mode : Mode} {outline : Outline} {kind : κ}

theorem mem_entries_of_named {tag : String} (known : vocabulary.named tag = .ok kind) :
    (tag, kind) ∈ vocabulary.entries := by
  rw [named] at known
  split at known
  case h_1 found looked =>
      cases known
      obtain ⟨before, after, whole, -⟩ := List.lookup_eq_some_iff.mp looked
      rw [whole]
      exact List.mem_append_right before List.mem_cons_self
  case h_2 => cases known

theorem mem_names {tag : String} (listed : (tag, kind) ∈ vocabulary.entries) :
    tag ∈ vocabulary.names := List.mem_map_of_mem (f := Prod.fst) listed

/-- Some form of a tag is accepted for the kind. -/
def Accepts (vocabulary : Vocabulary κ) (mode : Mode) (outline : Outline) (kind : κ) : Prop :=
  ∃ tag, (tag, kind) ∈ vocabulary.entries ∧ TagForm vocabulary.names mode outline tag

theorem accepts_of_plainTag (decoded : vocabulary.plainTag mode outline = .ok kind) :
    vocabulary.Accepts mode outline kind := by
  obtain ⟨found, read, decoded⟩ := exists_of_bind_eq_ok decoded
  have turned := eq_ok_of_ofFault read
  split at decoded
  case h_1 tag =>
      have listed := mem_entries_of_named decoded
      exact ⟨tag, listed, .word turned (mem_names listed)⟩
  case h_2 place =>
      rw [numbered] at decoded
      split at decoded
      case h_1 tag meant held =>
          cases decoded
          refine ⟨tag, List.mem_of_getElem? held, .index turned ?_⟩
          rw [names, List.getElem?_map, held]
          rfl
      case h_2 => cases decoded
  case h_3 => cases decoded

theorem found_of_unitValue {inner : Outline} (decoded : unitValue inner = .ok ()) :
    inner.found = .ok .null := by
  obtain ⟨found, read, decoded⟩ := exists_of_bind_eq_ok decoded
  cases found with
  | null => exact eq_ok_of_ofFault read
  | _ => cases decoded

theorem accepts_of_entry {key : Quoted} {inner : Outline} {close : Close} {tag : String}
    (read : key.read = .ok tag) (known : vocabulary.named tag = .ok kind)
    (empty : inner.found = .ok .null ∨ ∃ close, inner = .object [] close) :
    vocabulary.Accepts mode (.object [(key, inner)] close) kind := by
  have listed := mem_entries_of_named known
  exact ⟨tag, listed, .entry read (mem_names listed) empty⟩

theorem accepts_of_nodeTag (decoded : vocabulary.nodeTag mode outline = .ok kind) :
    vocabulary.Accepts mode outline kind := by
  unfold nodeTag at decoded
  split at decoded
  case h_1 literal =>
      obtain ⟨tag, read, known⟩ := exists_of_bind_eq_ok decoded
      have listed := mem_entries_of_named known
      have found : Outline.found (.scalar (.quoted literal)) = .ok (.string tag) :=
        congrArg (Except.map Json.Found.string) (eq_ok_of_ofFault read)
      exact ⟨tag, listed, .word found (mem_names listed)⟩
  case h_2 members close _ =>
      obtain ⟨_, _, decoded⟩ := exists_of_bind_eq_ok decoded
      cases members with
      | nil => cases close <;> cases decoded
      | cons member rest =>
          obtain ⟨key, inner⟩ := member
          obtain ⟨tag, read, decoded⟩ := exists_of_bind_eq_ok decoded
          obtain ⟨meant, known, decoded⟩ := exists_of_bind_eq_ok decoded
          obtain ⟨_, empty, decoded⟩ := exists_of_bind_eq_ok decoded
          obtain ⟨_, ended, same⟩ := exists_of_bind_eq_ok decoded
          cases same
          cases rest with
          | nil =>
              have named := eq_ok_of_ofFault read
              exact accepts_of_entry named known (.inl (found_of_unitValue empty))
          | cons next others => cases ended
  case h_3 members close =>
      unfold bufferedEntryTag at decoded
      split at decoded
      case h_1 key inner =>
          obtain ⟨tag, read, decoded⟩ := exists_of_bind_eq_ok decoded
          obtain ⟨meant, known, decoded⟩ := exists_of_bind_eq_ok decoded
          have named := eq_ok_of_ofFault read
          split at decoded
          case h_1 =>
              cases decoded
              exact accepts_of_entry named known (.inr ⟨_, rfl⟩)
          case h_2 =>
              obtain ⟨_, empty, same⟩ := exists_of_bind_eq_ok decoded
              cases same
              exact accepts_of_entry named known (.inl (found_of_unitValue empty))
      case h_2 => cases decoded
  case h_4 => cases decoded
  case h_5 => cases decoded
  case h_6 => exact absurd decoded reject_ne_ok

end Vocabulary

/-! ## Choices -/

/-- A tag that was found is among the members. -/
theorem choice_invariant {vocabulary : Vocabulary κ} {inside : Mode} {close : Close}
    {members : List (Quoted × Outline)} {draft : Option κ}
    (folded : foldMembers ["t"] inside.buffer (acceptChoice vocabulary inside) close none members =
      .ok draft) {kind : κ} (found : draft = some kind) :
    ∃ word, Member members "t" word ∧ vocabulary.plainTag inside word = .ok kind := by
  refine foldMembers_invariant
    (fun before draft => ∀ kind, draft = some kind →
      ∃ word, Member before "t" word ∧ vocabulary.plainTag inside word = .ok kind)
    ?_ ?_ ?_ folded kind found
  · intro before key name value draft next held read listed accepted kind same
    obtain rfl := List.mem_singleton.mp listed
    obtain ⟨-, kind, decoded, rfl⟩ := setOnce_cases accepted
    cases same
    exact ⟨value, member_concat.mpr (.inr ⟨rfl, read⟩), decoded⟩
  · intro before key name value draft held read unlisted kind same
    obtain ⟨word, member, decoded⟩ := held kind same
    exact ⟨word, member_concat.mpr (.inl member), decoded⟩
  · rintro kind ⟨⟩

theorem Forms.choice (forms : Forms grammar Spells) {vocabulary : Vocabulary κ}
    (listed : vocabulary.names ∈ grammar.choices) {tagOf : κ → String}
    (spelt : ∀ entry ∈ vocabulary.entries, tagOf entry.2 = entry.1) :
    Takes Spells (Decode.choice vocabulary) fun kind => .tagged (tagOf kind) := by
  intro mode outline kind decoded
  unfold Decode.choice at decoded
  split at decoded
  case h_1 members close =>
      obtain ⟨inside, entered, decoded⟩ := exists_of_bind_eq_ok decoded
      obtain ⟨draft, folded, decoded⟩ := exists_of_bind_eq_ok decoded
      obtain ⟨word, member, plain⟩ := choice_invariant folded (required_cases decoded)
      obtain ⟨tag, entry, form⟩ := Vocabulary.accepts_of_plainTag plain
      obtain rfl : tagOf kind = tag := spelt (tag, kind) entry
      exact forms.choiceObject entered listed member form
  case h_2 items close =>
      obtain ⟨inside, entered, decoded⟩ := exists_of_bind_eq_ok decoded
      cases items with
      | nil =>
          obtain ⟨_, _, decoded⟩ := exists_of_bind_eq_ok decoded
          cases decoded
      | cons word extra =>
          obtain ⟨meant, plain, decoded⟩ := exists_of_bind_eq_ok decoded
          obtain ⟨_, _, decoded⟩ := exists_of_bind_eq_ok decoded
          obtain ⟨_, _, decoded⟩ := exists_of_bind_eq_ok decoded
          cases extra with
          | nil =>
              cases decoded
              obtain ⟨tag, entry, form⟩ := Vocabulary.accepts_of_plainTag plain
              obtain rfl : tagOf kind = tag := spelt (tag, kind) entry
              exact forms.choiceItems entered listed form
          | cons next others => cases decoded
  case h_3 => exact absurd decoded reject_ne_ok

/-! ## Nodes -/

section

variable (vocabulary : Vocabulary κ) (payload : κ → Payload α) (inside : Mode)

/-- What has been met of a node is among its members so far, and each once. -/
def NodeDraft.Met (members : List (Quoted × Outline)) : NodeDraft κ α → Prop
  | .nothing => ∀ inner, ¬ Member members "c" inner
  | .tag kind =>
      (∃ word, Member members "t" word ∧ vocabulary.Accepts inside word kind) ∧
        ∀ inner, ¬ Member members "c" inner
  | .content buffer =>
      Member members "c" buffer ∧ (∀ other, Member members "c" other → other = buffer) ∧
        inside.buffer buffer = .ok ()
  | .complete result =>
      ∃ word kind inner, Member members "t" word ∧ vocabulary.Accepts inside word kind ∧
        Member members "c" inner ∧ (∀ other, Member members "c" other → other = inner) ∧
        ((payload kind).decode vocabulary.type inside inner = .ok result ∨
          inside.buffer inner = .ok () ∧
            (payload kind).decode vocabulary.type .buffered inner = .ok result)

/-- The outline is a node with the result, and this is how. -/
inductive NodeForm : Outline → α → Prop where
  | object {members : List (Quoted × Outline)} {close : Close} {word inner : Outline} {kind : κ}
      {result : α} (tag : Member members "t" word) (accepts : vocabulary.Accepts inside word kind)
      (content : Member members "c" inner)
      (once : ∀ other, Member members "c" other → other = inner)
      (decoded : (payload kind).decode vocabulary.type inside inner = .ok result ∨
        inside.buffer inner = .ok () ∧
          (payload kind).decode vocabulary.type .buffered inner = .ok result) :
      NodeForm (.object members close) result
  | alone {members : List (Quoted × Outline)} {close : Close} {word : Outline} {kind : κ}
      {result : α} (tag : Member members "t" word) (accepts : vocabulary.Accepts inside word kind)
      (none : ∀ inner, ¬ Member members "c" inner) (absent : (payload kind).absent = .ok result) :
      NodeForm (.object members close) result
  | items {close : Close} {word inner : Outline} {kind : κ} {result : α}
      (accepts : vocabulary.Accepts inside word kind)
      (decoded : (payload kind).decode vocabulary.type inside inner = .ok result) :
      NodeForm (.list [word, inner] close) result

end

section

variable {vocabulary : Vocabulary κ} {payload : κ → Payload α} {inside : Mode}

theorem NodeDraft.Met.congr {members others : List (Quoted × Outline)} {draft : NodeDraft κ α}
    (met : draft.Met vocabulary payload inside members)
    (tags : ∀ word, Member members "t" word → Member others "t" word)
    (contents : ∀ inner, Member others "c" inner ↔ Member members "c" inner) :
    draft.Met vocabulary payload inside others := by
  cases draft with
  | nothing => exact fun inner member => met inner ((contents inner).mp member)
  | tag kind =>
      obtain ⟨⟨word, member, accepts⟩, none⟩ := met
      exact ⟨⟨word, tags word member, accepts⟩,
        fun inner member => none inner ((contents inner).mp member)⟩
  | content buffer =>
      obtain ⟨member, once, buffered⟩ := met
      exact ⟨(contents buffer).mpr member,
        fun other again => once other ((contents other).mp again), buffered⟩
  | complete result =>
      obtain ⟨word, kind, inner, tag, accepts, member, once, decoded⟩ := met
      exact ⟨word, kind, inner, tags word tag, accepts, (contents inner).mpr member,
        fun other again => once other ((contents other).mp again), decoded⟩

/-- The first content is the only one so far. -/
theorem member_content_concat {members : List (Quoted × Outline)} {key : Quoted}
    {value other : Outline} (none : ∀ inner, ¬ Member members "c" inner)
    (member : Member (members ++ [(key, value)]) "c" other) : other = value := by
  rcases member_concat.mp member with before | ⟨same, -⟩
  · exact absurd before (none other)
  · exact same

/-- One more of the two members of a node. -/
theorem acceptNode_met {members : List (Quoted × Outline)} {key : Quoted} {name : String}
    {value : Outline} {draft next : NodeDraft κ α}
    (met : draft.Met vocabulary payload inside members) (read : key.read = .ok name)
    (listed : name ∈ ["t", "c"])
    (accepted : acceptNode vocabulary payload inside draft name value = .ok next) :
    next.Met vocabulary payload inside (members ++ [(key, value)]) := by
  simp only [List.mem_cons, List.not_mem_nil, or_false] at listed
  rcases listed with rfl | rfl
  · have contents (inner : Outline) : Member (members ++ [(key, value)]) "c" inner ↔
        Member members "c" inner := member_concat_other read (by decide)
    have tag : Member (members ++ [(key, value)]) "t" value :=
      member_concat.mpr (.inr ⟨rfl, read⟩)
    cases draft with
    | nothing =>
        obtain ⟨kind, decoded, same⟩ := exists_of_bind_eq_ok accepted
        cases same
        exact ⟨⟨value, tag, Vocabulary.accepts_of_nodeTag decoded⟩,
          fun inner member => met inner ((contents inner).mp member)⟩
    | content buffer =>
        obtain ⟨kind, decoded, accepted⟩ := exists_of_bind_eq_ok accepted
        obtain ⟨result, filled, same⟩ := exists_of_bind_eq_ok accepted
        cases same
        obtain ⟨member, once, buffered⟩ := met
        exact ⟨value, kind, buffer, tag, Vocabulary.accepts_of_nodeTag decoded,
          (contents buffer).mpr member, fun other again => once other ((contents other).mp again),
          .inr ⟨buffered, filled⟩⟩
    | tag kind => cases accepted
    | complete result => cases accepted
  · have content : Member (members ++ [(key, value)]) "c" value :=
      member_concat.mpr (.inr ⟨rfl, read⟩)
    cases draft with
    | nothing =>
        obtain ⟨_, buffered, same⟩ := exists_of_bind_eq_ok accepted
        cases same
        exact ⟨content, fun other member => member_content_concat met member, buffered⟩
    | tag kind =>
        obtain ⟨result, filled, same⟩ := exists_of_bind_eq_ok accepted
        cases same
        obtain ⟨⟨word, member, accepts⟩, none⟩ := met
        exact ⟨word, kind, value, member_concat.mpr (.inl member), accepts, content,
          fun other again => member_content_concat none again, .inl filled⟩
    | content buffer => cases accepted
    | complete result => cases accepted

/-- A node is an object with a tag and the content that goes with it, or their list. -/
theorem node_cases {mode : Mode} {outline : Outline} {result : α}
    (decoded : node vocabulary payload mode outline = .ok result) :
    ∃ inside, mode.enter = .ok inside ∧ NodeForm vocabulary payload inside outline result := by
  unfold node at decoded
  split at decoded
  case h_1 members close =>
      obtain ⟨inside, entered, decoded⟩ := exists_of_bind_eq_ok decoded
      obtain ⟨draft, folded, finished⟩ := exists_of_bind_eq_ok decoded
      refine ⟨inside, entered, ?_⟩
      have met := foldMembers_invariant (NodeDraft.Met vocabulary payload inside)
        (fun before key name value draft next => acceptNode_met) ?_ ?_ folded
      · cases draft with
        | nothing => cases finished
        | content buffer => cases finished
        | tag kind =>
            obtain ⟨⟨word, tag, accepts⟩, none⟩ := met
            exact .alone tag accepts none finished
        | complete value =>
            cases finished
            obtain ⟨word, kind, inner, tag, accepts, content, once, filled⟩ := met
            exact .object tag accepts content once filled
      · intro before key name value draft held read unlisted
        simp only [List.mem_cons, List.not_mem_nil, or_false, not_or] at unlisted
        exact held.congr (fun word member => member_concat.mpr (.inl member))
          fun inner => member_concat_other read unlisted.2
      · rintro inner ⟨key, ⟨⟩, -⟩
  case h_2 items close =>
      obtain ⟨inside, entered, decoded⟩ := exists_of_bind_eq_ok decoded
      obtain ⟨⟨value, after⟩, read, decoded⟩ := exists_of_bind_eq_ok decoded
      obtain ⟨_, finished, same⟩ := exists_of_bind_eq_ok decoded
      cases same
      obtain ⟨⟨kind, between⟩, first, second⟩ := exists_of_bind_eq_ok read
      obtain ⟨word, waiting, plain⟩ := item_cases first
      obtain ⟨inner, last, filled⟩ := item_cases second
      rw [last, Items.rest_of_finish finished] at waiting
      obtain rfl : items = [word, inner] := waiting
      exact ⟨inside, entered, .items (Vocabulary.accepts_of_plainTag plain) filled⟩
  case h_3 => exact absurd decoded reject_ne_ok

/-- A content is written under its tag. -/
def Payload.Takes (Spells : Mode → Outline → Json → Prop) (tag : String) (encode : α → Json) :
    Payload α → Prop
  | .bare _ value => encode value = .tagged tag
  | .content decoder =>
      ∀ (mode : Mode) (outline : Outline) (result : α), decoder mode outline = .ok result →
        ∃ content, encode result = .node tag content ∧ Spells mode outline content

/-- Nothing but null is accepted for a kind without content. -/
theorem Payload.decode_bare {kind type : String} {value result : α} {mode : Mode}
    {outline : Outline}
    (decoded : (Payload.bare kind value).decode type mode outline = .ok result) :
    outline = .scalar .null ∧ result = value := by
  unfold Payload.decode at decoded
  dsimp only at decoded
  split at decoded
  case h_1 =>
      cases decoded
      exact ⟨rfl, rfl⟩
  case h_2 => exact absurd decoded rejectInside_ne_ok

theorem Forms.node (forms : Forms grammar Spells) (listed : vocabulary.names ∈ grammar.nodes)
    {encode : α → Json}
    (takes : ∀ entry ∈ vocabulary.entries, (payload entry.2).Takes Spells entry.1 encode) :
    Takes Spells (Decode.node vocabulary payload) encode := by
  intro mode outline result decoded
  obtain ⟨inside, entered, form⟩ := node_cases decoded
  cases form with
  | @object _ _ word inner kind _ tag accepts content once decoded =>
      obtain ⟨name, entry, form⟩ := accepts
      have taken := takes (name, kind) entry
      cases held : payload kind with
      | bare label value =>
          rw [held] at taken decoded
          have empty : inner = .scalar .null ∧ result = value := by
            rcases decoded with direct | ⟨-, later⟩
            · exact Payload.decode_bare direct
            · exact Payload.decode_bare later
          rw [empty.2, show encode value = _ from taken]
          exact forms.bareObject entered listed tag form fun other again =>
            (once other again).trans empty.1
      | content decoder =>
          rw [held] at taken decoded
          rcases decoded with direct | ⟨buffered, later⟩
          · obtain ⟨written, same, spells⟩ := taken _ _ _ direct
            rw [same]
            exact forms.nodeObject entered listed tag form content (.inl spells)
          · obtain ⟨written, same, spells⟩ := taken _ _ _ later
            rw [same]
            exact forms.nodeObject entered listed tag form content (.inr ⟨buffered, spells⟩)
  | @alone _ _ word kind _ tag accepts none absent =>
      obtain ⟨name, entry, form⟩ := accepts
      have taken := takes (name, kind) entry
      cases held : payload kind with
      | bare label value =>
          rw [held] at taken absent
          cases absent
          rw [show encode result = _ from taken]
          exact forms.bareObject entered listed tag form fun inner member =>
            absurd member (none inner)
      | content decoder =>
          rw [held] at absent
          cases absent
  | @items _ word inner kind _ accepts decoded =>
      obtain ⟨name, entry, form⟩ := accepts
      have taken := takes (name, kind) entry
      cases held : payload kind with
      | bare label value =>
          rw [held] at taken decoded
          obtain ⟨rfl, rfl⟩ := Payload.decode_bare decoded
          rw [show encode result = _ from taken]
          exact forms.bareItems entered listed form
      | content decoder =>
          rw [held] at taken decoded
          obtain ⟨written, same, spells⟩ := taken _ _ _ decoded
          rw [same]
          exact forms.nodeItems entered listed form spells

end

/-! ## Records -/

/-- A record comes from the list of its parts, or from a draft of which everything holds that
each part preserves. -/
theorem record_cases (Holds : δ → Prop) {type : String} {names : List String} {start : δ}
    {accept : Mode → δ → String → Outline → Result δ} {finish : δ → Result α}
    {parts : ItemsM α} (fresh : Holds start)
    (accepts : ∀ mode draft name value next, Holds draft → name ∈ names →
      accept mode draft name value = .ok next → Holds next) {mode : Mode} {outline : Outline}
    {result : α}
    (decoded : Decode.record type names start accept finish parts mode outline = .ok result) :
    (∃ inside length state after, parts inside length state = .ok (result, after)) ∨
      ∃ draft, Holds draft ∧ finish draft = .ok result := by
  unfold Decode.record at decoded
  split at decoded
  case h_1 items close =>
      obtain ⟨inside, _, decoded⟩ := exists_of_bind_eq_ok decoded
      obtain ⟨⟨value, after⟩, read, decoded⟩ := exists_of_bind_eq_ok decoded
      obtain ⟨_, _, same⟩ := exists_of_bind_eq_ok decoded
      cases same
      exact .inl ⟨inside, _, _, after, read⟩
  case h_2 members close =>
      obtain ⟨inside, _, decoded⟩ := exists_of_bind_eq_ok decoded
      obtain ⟨draft, folded, finished⟩ := exists_of_bind_eq_ok decoded
      refine .inr ⟨draft, ?_, finished⟩
      exact foldMembers_invariant (fun _ draft => Holds draft)
        (fun _ _ _ _ _ _ held _ listed accepted => accepts _ _ _ _ _ held listed accepted)
        (fun _ _ _ _ _ held _ _ => held) fresh folded
  case h_3 => exact absurd decoded reject_ne_ok

/-- A draft has a slot for each part of a record. A part is accepted into one of them, and
the record is finished once all are filled. -/
theorem Forms.record (forms : Forms grammar Spells) {type : String} {names : List String}
    {start : δ} {accept : Mode → δ → String → Outline → Result δ} {finish : δ → Result α}
    {parts : ItemsM α} {encode : α → List (String × Json)}
    (listed : names ∈ grammar.records) (named : ∀ result, (encode result).map Prod.fst = names)
    (slots : δ → List (Option (String × Json))) (fresh : ∀ slot ∈ slots start, slot = none)
    (accepts : ∀ mode draft name value next, name ∈ names →
      accept mode draft name value = .ok next → ∃ place content,
        slots next = (slots draft).set place (some (name, content)) ∧ Spells mode value content)
    (finishes : ∀ draft result, finish draft = .ok result →
      slots draft = (encode result).map some)
    (takes : TakesItems Spells parts fun result values => (encode result).map Prod.snd = values) :
    Takes Spells (Decode.record type names start accept finish parts) fun result =>
      .object (encode result) := by
  intro mode outline result decoded
  unfold Decode.record at decoded
  split at decoded
  case h_1 items close =>
      obtain ⟨inside, values, entered, each, same⟩ := decodeItems_cases takes decoded
      refine forms.recordItems entered (named result ▸ listed) ?_
      rw [same]
      exact each
  case h_2 members close =>
      obtain ⟨inside, entered, decoded⟩ := exists_of_bind_eq_ok decoded
      obtain ⟨draft, folded, finished⟩ := exists_of_bind_eq_ok decoded
      refine forms.recordObject entered (named result ▸ listed) ?_
      have met := foldMembers_invariant
        (fun before draft => ∀ part, some part ∈ slots draft →
          ∃ outline, Member before part.1 outline ∧ Spells inside outline part.2)
        ?_ ?_ ?_ folded
      · intro part member
        refine met part ?_
        rw [finishes draft result finished]
        exact List.mem_map_of_mem member
      · intro before key name value draft next held read known accepted part filled
        obtain ⟨place, content, slot, spells⟩ := accepts inside draft name value next known accepted
        rw [slot] at filled
        rcases List.mem_or_eq_of_mem_set filled with old | same
        · obtain ⟨outline, member, spells⟩ := held part old
          exact ⟨outline, member_concat.mpr (.inl member), spells⟩
        · cases same
          exact ⟨value, member_concat.mpr (.inr ⟨rfl, read⟩), spells⟩
      · intro before key name value draft held _ _ part filled
        obtain ⟨outline, member, spells⟩ := held part filled
        exact ⟨outline, member_concat.mpr (.inl member), spells⟩
      · intro part filled
        cases fresh _ filled
  case h_3 => exact absurd decoded reject_ne_ok

/-! ## Maps -/

/-- The entries of a map come from members, its keys are the names of all members, and they
are in order. -/
theorem mapMembers_cases {entry : Outline → Result α} {close : Close}
    {members : List (Quoted × Outline)} {held result : List (String × α)}
    (decoded : mapMembers entry close held members = .ok result) (sorted : Entries.Sorted held) :
    Entries.Sorted result ∧
      (∀ pair ∈ result, pair ∈ held ∨
        ∃ outline, Member members pair.1 outline ∧ entry outline = .ok pair.2) ∧
      (∀ name ∈ held.map Prod.fst, name ∈ result.map Prod.fst) ∧
      ∀ name outline, Member members name outline → name ∈ result.map Prod.fst := by
  induction members generalizing held with
  | nil =>
      obtain ⟨_, _, same⟩ := exists_of_bind_eq_ok decoded
      cases same
      refine ⟨sorted, fun _ member => .inl member, fun _ member => member, ?_⟩
      rintro name outline ⟨key, ⟨⟩, -⟩
  | cons member rest ih =>
      obtain ⟨key, value⟩ := member
      obtain ⟨name, read, decoded⟩ := exists_of_bind_eq_ok decoded
      obtain ⟨new, entered, decoded⟩ := exists_of_bind_eq_ok decoded
      have named := eq_ok_of_ofFault read
      obtain ⟨ordered, sources, kept, met⟩ := ih decoded (Entries.sorted_insert name new sorted)
      refine ⟨ordered, ?_, ?_, ?_⟩
      · intro pair listed
        rcases sources pair listed with before | ⟨outline, member, given⟩
        · rcases Entries.mem_insert before with rfl | old
          · exact .inr ⟨value, member_cons.mpr (.inl ⟨rfl, named⟩), entered⟩
          · exact .inl old
        · exact .inr ⟨outline, member_cons.mpr (.inr member), given⟩
      · intro other listed
        exact kept other (Entries.mem_keys_insert.mpr (.inr listed))
      · intro other outline member
        rcases member_cons.mp member with ⟨-, again⟩ | later
        · cases named.symm.trans again
          exact kept name (Entries.mem_keys_insert.mpr (.inl rfl))
        · exact met other outline later

theorem map_cases {entry : Decoder α} {mode : Mode} {outline : Outline}
    {result : List (String × α)} (decoded : Decode.map entry mode outline = .ok result) :
    ∃ inside members close, outline = .object members close ∧ mode.enter = .ok inside ∧
      Entries.Sorted result ∧
      (∀ pair ∈ result, ∃ outline, Member members pair.1 outline ∧
        entry inside outline = .ok pair.2) ∧
      ∀ name outline, Member members name outline → name ∈ result.map Prod.fst := by
  unfold Decode.map at decoded
  split at decoded
  case h_1 members close =>
      obtain ⟨inside, entered, decoded⟩ := exists_of_bind_eq_ok decoded
      obtain ⟨sorted, sources, -, met⟩ := mapMembers_cases decoded .nil
      refine ⟨inside, members, close, rfl, entered, sorted, ?_, met⟩
      intro pair listed
      rcases sources pair listed with ⟨⟨⟩⟩ | source
      exact source
  case h_2 => exact absurd decoded reject_ne_ok

theorem Forms.map (forms : Forms grammar Spells) {entry : Decoder α} {encode : α → Json}
    (takes : Takes Spells entry encode) :
    Takes Spells (Decode.map entry) fun entries =>
      .object (entries.map fun pair => (pair.1, encode pair.2)) := by
  intro mode outline result decoded
  obtain ⟨inside, members, close, rfl, entered, sorted, sources, met⟩ := map_cases decoded
  refine forms.mapObject entered (List.pairwise_map.mpr sorted) ?_ ?_
  · intro written listed
    obtain ⟨pair, member, rfl⟩ := List.mem_map.mp listed
    obtain ⟨outline, named, given⟩ := sources pair member
    exact ⟨outline, named, takes _ _ _ given⟩
  · intro name outline member
    rw [List.map_map]
    exact met name outline member

end Decode

end DocFilter
