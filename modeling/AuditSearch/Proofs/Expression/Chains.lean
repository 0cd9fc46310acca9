import AuditSearch.Expression
import AuditSearch.Proofs.Text.Pieces

/-!
# Chains of fields

A `Chain` is what the text of `firstNonNull` says: a field, or a field with the chain that stands
in when the field is null. `Chain.text` is the grammar of such texts, in which any text may stand
as a name. Over names without single quotes the text determines the chain, even against chains whose
names hold quotes (`Chain.eq_of_text_eq`), and a chain has the value of its first field that is not
null (`Chain.value_eq`).

A text is read through its pieces between single quotes. They stand in layers around the
innermost name, and every layer has its name on both sides. A name with quotes in it would have to
repeat some layers of the left half in the right half, where the brackets are others
(`Chain.splitAt_name`).
-/

namespace AuditSearch.Expression

/-- A field of the record, or one with a chain that stands in for it. -/
inductive Chain where
  | field (name : String)
  | orElse (name : String) (otherwise : Chain)
deriving DecidableEq, Repr

namespace Chain

def quote : Char := '\''

def quoted (name : String) : String :=
  String.singleton quote ++ name ++ String.singleton quote

/-- The grammar: a chain is `'n'`, or `if(isnull('n'),` a chain `,'n')` with the same name in both
places. -/
def text : Chain → String
  | field name => quoted name
  | orElse name otherwise =>
    "if(isnull(" ++ quoted name ++ ")," ++ otherwise.text ++ "," ++ quoted name ++ ")"

/-- The fields from the outermost to the innermost, which is read unconditionally. -/
def names : Chain → List String
  | field name => [name]
  | orElse name otherwise => name :: otherwise.names

def conditionals : Chain → Nat
  | field _ => 0
  | orElse _ otherwise => otherwise.conditionals + 1

/-- The value in a record, which gives every field a value or null. -/
def value {V : Type} (record : String → Option V) : Chain → Option V
  | field name => record name
  | orElse name otherwise =>
    if (record name).isNone then otherwise.value record else record name

def ofNames (name : String) : List String → Chain
  | [] => field name
  | next :: rest => orElse name (ofNames next rest)

theorem text_ofNames (name : String) (rest : List String) :
    (ofNames name rest).text = firstNonNull name rest := by
  induction rest generalizing name with
  | nil => rfl
  | cons next rest ih => exact congrArg (Expression.orElse name) (ih next)

theorem names_ofNames (name : String) (rest : List String) :
    (ofNames name rest).names = name :: rest := by
  induction rest generalizing name with
  | nil => rfl
  | cons next rest ih => rw [ofNames, names, ih next]

theorem conditionals_ofNames (name : String) (rest : List String) :
    (ofNames name rest).conditionals = rest.length := by
  induction rest generalizing name with
  | nil => rfl
  | cons next rest ih => rw [ofNames, conditionals, ih next, List.length_cons]

theorem value_eq {V : Type} (record : String → Option V) (chain : Chain) :
    chain.value record = chain.names.findSome? record := by
  induction chain with
  | field name =>
    rw [value, names, List.findSome?_singleton]
  | orElse name otherwise ih =>
    rw [value, names, List.findSome?_cons, ih]
    cases record name <;> rfl

/-! ## Pieces of a text -/

/-- What stands in front of the first quote. -/
def front : Chain → String
  | field _ => ""
  | orElse _ _ => "if(isnull("

/-- What stands behind the last quote. -/
def back : Chain → String
  | field _ => ""
  | orElse _ _ => ")"

/-- The pieces between the first and the last quote. -/
def pieces : Chain → List String
  | field name => Text.splitAt quote name
  | orElse name otherwise =>
    Text.splitAt quote name ++ (")," ++ otherwise.front) ::
      (otherwise.pieces ++ (otherwise.back ++ ",") :: Text.splitAt quote name)

/-- Also with something around the text, which becomes part of the outer pieces. -/
theorem splitAt_text (chain : Chain) {before after : String} (hbefore : Text.Lacks quote before)
    (hafter : Text.Lacks quote after) :
    Text.splitAt quote (before ++ chain.text ++ after) =
      (before ++ chain.front) :: (chain.pieces ++ [chain.back ++ after]) := by
  induction chain generalizing before after with
  | field name =>
    have htext : before ++ (field name).text ++ after =
        before ++ String.singleton quote ++ (name ++ String.singleton quote ++ after) := by
      have hgrammar : (field name).text = quoted name := rfl
      simp only [hgrammar, quoted, String.append_assoc]
    rw [htext, Text.splitAt_append, Text.splitAt_append, Text.splitAt_of_lacks hbefore,
      Text.splitAt_of_lacks hafter, front, back, pieces, String.append_empty, String.empty_append]
    rfl
  | orElse name otherwise ih =>
    have hfront : Text.Lacks quote (before ++ "if(isnull(") := hbefore.append (by decide)
    have hback : Text.Lacks quote (")" ++ after) := .append (by decide) hafter
    have htext : before ++ (orElse name otherwise).text ++ after =
        before ++ "if(isnull(" ++ String.singleton quote ++
          (name ++ String.singleton quote ++ ((")," ++ otherwise.text ++ ",") ++
            String.singleton quote ++ (name ++ String.singleton quote ++ (")" ++ after)))) := by
      have hgrammar : (orElse name otherwise).text =
        "if(isnull(" ++ quoted name ++ ")," ++ otherwise.text ++ "," ++ quoted name ++ ")" := rfl
      simp only [hgrammar, quoted, String.append_assoc]
    have hpieces : (orElse name otherwise).pieces ++ [")" ++ after] =
        Text.splitAt quote name ++ ((")," ++ otherwise.front) ::
          (otherwise.pieces ++ (otherwise.back ++ ",") ::
            (Text.splitAt quote name ++ [")" ++ after]))) := by
      simp only [pieces, List.append_assoc, List.cons_append]
    rw [htext, Text.splitAt_append, Text.splitAt_append, Text.splitAt_append, Text.splitAt_append,
      Text.splitAt_of_lacks hfront, Text.splitAt_of_lacks hback, ih (by decide) (by decide)]
    refine Eq.trans ?_ (congrArg (List.cons (before ++ "if(isnull(")) hpieces.symm)
    simp only [List.append_assoc, List.cons_append, List.nil_append]

theorem pieces_ne_nil (chain : Chain) : chain.pieces ≠ [] := by
  cases chain with
  | field name => exact Text.splitAt_ne_nil name
  | orElse name otherwise => exact List.append_ne_nil_of_left_ne_nil (Text.splitAt_ne_nil name) _

/-! ## Layers -/

/-- Every name between what is left of the rest of the chain and what is right of it. -/
def layers (left right : Chain → String) : Chain → List String
  | field name => [name]
  | orElse name otherwise =>
    name :: left otherwise :: (otherwise.layers left right ++ [right otherwise, name])

section
variable {left right : Chain → String}

theorem length_layers (chain : Chain) :
    (chain.layers left right).length = 4 * chain.conditionals + 1 := by
  induction chain with
  | field name => rfl
  | orElse name otherwise ih =>
    simp only [layers, conditionals, List.length_cons, List.length_append, List.length_nil, ih]
    omega

theorem reverse_layers (chain : Chain) :
    (chain.layers left right).reverse = chain.layers right left := by
  induction chain with
  | field name => rfl
  | orElse name otherwise ih =>
    simp only [layers, List.reverse_cons, List.reverse_append, List.reverse_nil, List.nil_append,
      List.append_assoc, List.cons_append, ih]

theorem getElem?_layers_zero (chain : Chain) :
    (chain.layers left right)[0]? = chain.names.head? := by
  cases chain <;> rfl

/-- What stands between two names in front of the innermost conditional. -/
theorem getElem?_layers {bracket : String}
    (hleft : ∀ name otherwise, left (orElse name otherwise) = bracket) (chain : Chain) {i : Nat}
    (hi : i + 1 < chain.conditionals) :
    (chain.layers left right)[2 * i + 1]? = some bracket := by
  induction chain generalizing i with
  | field name => exact absurd hi (Nat.not_lt_zero _)
  | orElse name otherwise ih =>
    rw [conditionals, Nat.add_lt_add_iff_right] at hi
    rw [layers, List.getElem?_cons_succ]
    cases i with
    | zero =>
      cases otherwise with
      | field next => exact absurd hi (Nat.lt_irrefl 0)
      | orElse next rest => exact congrArg some (hleft next rest)
    | succ i =>
      have hlength : 2 * i + 1 < (otherwise.layers left right).length := by
        rw [length_layers]
        omega
      have hindex : 2 * (i + 1) = 2 * i + 1 + 1 := by omega
      rw [hindex, List.getElem?_cons_succ, List.getElem?_append_left hlength]
      exact ih hi

/-- If the brackets on the two sides differ, only the outermost name can stand at both ends. -/
theorem length_edge_le_one {opening closing : String}
    (hleft : ∀ name otherwise, left (orElse name otherwise) = opening)
    (hright : ∀ name otherwise, right (orElse name otherwise) = closing) (hne : opening ≠ closing)
    {chain : Chain} {edge middle : List String} (hmiddle : 3 ≤ middle.length)
    (h : chain.layers left right = edge ++ middle ++ edge) : edge.length ≤ 1 := by
  by_contra hlong
  have hlength : 4 * chain.conditionals + 1 = edge.length + middle.length + edge.length := by
    have hlayers : (chain.layers left right).length = 4 * chain.conditionals + 1 :=
      length_layers chain
    rw [← hlayers, h, List.length_append, List.length_append]
  have hreverse : chain.layers right left = edge.reverse ++ (middle.reverse ++ edge.reverse) := by
    rw [← reverse_layers, h, List.reverse_append, List.reverse_append]
  -- The edge read from the left is the beginning of the layers, and from the right their end.
  have hfront : ∀ i < edge.length, edge[i]? = (chain.layers left right)[i]? := by
    intro i hi
    rw [h, List.append_assoc, List.getElem?_append_left hi]
  have hback : ∀ i < edge.length,
      edge[edge.length - 1 - i]? = (chain.layers right left)[i]? := by
    intro i hi
    have hi' : i < edge.reverse.length := by rwa [List.length_reverse]
    rw [hreverse, List.getElem?_append_left hi', List.getElem?_reverse hi]
  obtain ⟨half, heven | hodd⟩ : ∃ half, edge.length = 2 * half ∨ edge.length = 2 * half + 1 :=
    ⟨edge.length / 2, by omega⟩
  · -- The first and the last piece of the edge are the outermost name and brackets of both sides.
    have hlast : edge.length - 1 = 2 * (half - 1) + 1 := by omega
    have hopening : edge[edge.length - 1]? = some opening := by
      rw [hfront _ (by omega), hlast]
      exact getElem?_layers hleft chain (by omega)
    have hclosing : edge[0]? = some closing := by
      have hback' := hback (edge.length - 1) (by omega)
      rw [Nat.sub_self, hlast, getElem?_layers hright chain (by omega)] at hback'
      exact hback'
    have hends : edge[edge.length - 1]? = edge[0]? := by
      have hback' := hback 0 (by omega)
      rw [Nat.sub_zero] at hback'
      rw [hback', hfront 0 (by omega), getElem?_layers_zero, getElem?_layers_zero]
    rw [hopening, hclosing] at hends
    exact hne (Option.some.inj hends)
  · -- The second piece of the edge is a bracket of both sides.
    have hopening : edge[1]? = some opening := by
      rw [hfront 1 (by omega)]
      exact getElem?_layers hleft chain (show 0 + 1 < chain.conditionals by omega)
    have hclosing : edge[1]? = some closing := by
      have hback' := hback (2 * (half - 1) + 1) (by omega)
      have hindex : edge.length - 1 - (2 * (half - 1) + 1) = 1 := by omega
      rw [hindex, getElem?_layers hright chain (by omega)] at hback'
      exact hback'
    rw [hopening] at hclosing
    exact hne (Option.some.inj hclosing)

end

/-! ## Reading a text -/

theorem pieces_eq_layers {chain : Chain} (h : ∀ name ∈ chain.names, Text.Lacks quote name) :
    chain.pieces =
      chain.layers (fun rest => ")," ++ rest.front) (fun rest => rest.back ++ ",") := by
  induction chain with
  | field name => exact Text.splitAt_of_lacks (h name List.mem_cons_self)
  | orElse name otherwise ih =>
    rw [names, List.forall_mem_cons] at h
    rw [pieces, layers, ih h.2, Text.splitAt_of_lacks h.1]
    rfl

/-- A name that stands at both ends, with a chain between, holds no quote. -/
theorem splitAt_name {chain otherwise : Chain} {name : String}
    (h : ∀ name ∈ chain.names, Text.Lacks quote name)
    (hpieces : (orElse name otherwise).pieces = chain.pieces) :
    Text.splitAt quote name = [name] := by
  have hmiddle : 3 ≤ ((")," ++ otherwise.front) ::
      (otherwise.pieces ++ [otherwise.back ++ ","])).length := by
    have hpos := List.length_pos_iff.mpr (pieces_ne_nil otherwise)
    simp only [List.length_cons, List.length_append, List.length_nil]
    omega
  have hsplit : chain.layers (fun rest => ")," ++ rest.front) (fun rest => rest.back ++ ",") =
      Text.splitAt quote name ++
        ((")," ++ otherwise.front) :: (otherwise.pieces ++ [otherwise.back ++ ","])) ++
        Text.splitAt quote name := by
    rw [← pieces_eq_layers h, ← hpieces]
    simp only [pieces, List.append_assoc, List.cons_append, List.nil_append]
  have hleft : ∀ name otherwise, ")," ++ (orElse name otherwise).front = "),if(isnull(" :=
    fun _ _ => rfl
  have hright : ∀ name otherwise, (orElse name otherwise).back ++ "," = ")," := fun _ _ => rfl
  have hshort : (Text.splitAt quote name).length ≤ 1 :=
    @length_edge_le_one (fun rest => ")," ++ rest.front) (fun rest => rest.back ++ ",") _ _ hleft
      hright (by decide) _ _ _ hmiddle hsplit
  have hcount : (Text.splitAt quote name).length = name.toList.count quote + 1 :=
    Text.length_splitAt name
  have hlacks : quote ∉ name.toList := List.count_eq_zero.mp (by omega)
  exact Text.splitAt_of_lacks hlacks

theorem eq_of_pieces_eq {chain other : Chain} (h : ∀ name ∈ chain.names, Text.Lacks quote name)
    (hfront : other.front = chain.front) (hpieces : other.pieces = chain.pieces) :
    other = chain := by
  induction chain generalizing other with
  | field name =>
    cases other with
    | field otherName =>
      have hname := congrArg ((String.singleton quote).intercalate ·) hpieces
      simp only [pieces, Text.intercalate_splitAt] at hname
      rw [hname]
    | orElse otherName rest =>
      have hne : "if(isnull(" ≠ "" := by decide
      exact absurd hfront hne
  | orElse name otherwise ih =>
    cases other with
    | field otherName =>
      have hne : "" ≠ "if(isnull(" := by decide
      exact absurd hfront hne
    | orElse otherName rest =>
      have hcut := splitAt_name h hpieces
      rw [names, List.forall_mem_cons] at h
      simp only [pieces, hcut, Text.splitAt_of_lacks h.1, List.singleton_append,
        List.cons.injEq] at hpieces
      obtain ⟨hname, hopening, hrest⟩ := hpieces
      have hfront' : rest.front = otherwise.front := (String.append_right_inj _).mp hopening
      have hpieces' : rest.pieces = otherwise.pieces := (List.append_inj' hrest rfl).1
      rw [hname, ih h.2 hfront' hpieces']

/-- The text of a chain over names without quotes is the text of no other chain. -/
theorem eq_of_text_eq {chain other : Chain} (h : ∀ name ∈ chain.names, Text.Lacks quote name)
    (htext : other.text = chain.text) : other = chain := by
  have hcut : ∀ chain : Chain,
      Text.splitAt quote chain.text = chain.front :: (chain.pieces ++ [chain.back]) := by
    intro chain
    have hnothing : Text.Lacks quote "" := by decide
    have hsplit := splitAt_text chain hnothing hnothing
    simpa only [String.empty_append, String.append_empty] using hsplit
  have hpieces := congrArg (Text.splitAt quote) htext
  rw [hcut, hcut, List.cons.injEq] at hpieces
  exact eq_of_pieces_eq h hpieces.1 (List.append_inj' hpieces.2 rfl).1

end Chain

/-- The text for a list of fields has one reading, a chain over these fields in order, whose last
field is read unconditionally. Other fields have another text, and in every record the chain has
the value of the first field that has one. -/
theorem firstNonNull?_reading {fields : List String} (hne : fields ≠ [])
    (h : ∀ field ∈ fields, Text.Lacks '\'' field) :
    (∃ chain : Chain, firstNonNull? fields = some chain.text ∧
      (∀ other : Chain, other.text = chain.text → other = chain) ∧
      chain.names = fields ∧ chain.conditionals = fields.length - 1 ∧
      ∀ (V : Type) (record : String → Option V), chain.value record = fields.findSome? record) ∧
    ∀ others, firstNonNull? others = firstNonNull? fields → others = fields := by
  obtain ⟨name, rest, rfl⟩ := List.exists_cons_of_ne_nil hne
  have htext : ∀ name rest, firstNonNull? (name :: rest) = some (Chain.ofNames name rest).text :=
    fun name rest => congrArg some (Chain.text_ofNames name rest).symm
  have hnames := Chain.names_ofNames name rest
  have hunique : ∀ other : Chain, other.text = (Chain.ofNames name rest).text →
      other = Chain.ofNames name rest := by
    intro other
    rw [← hnames] at h
    exact Chain.eq_of_text_eq h
  refine ⟨⟨Chain.ofNames name rest, htext name rest, hunique, hnames, ?_, ?_⟩, ?_⟩
  · rw [Chain.conditionals_ofNames, List.length_cons, Nat.add_sub_cancel]
  · intro V record
    rw [Chain.value_eq, hnames]
  · intro others hothers
    cases others with
    | nil => exact nomatch hothers
    | cons other more =>
      rw [htext, htext] at hothers
      rw [← Chain.names_ofNames other more, hunique _ (Option.some.inj hothers), hnames]

/-- A field that comes twice, and one whose name looks like the inside of a text. -/
theorem firstNonNull?_reading_repeats :
    let fields := ["verb", "),if(isnull(", "verb"]
    fields ≠ [] ∧ (∀ field ∈ fields, Text.Lacks '\'' field) ∧
    (∃ chain : Chain, firstNonNull? fields = some chain.text ∧
      (∀ other : Chain, other.text = chain.text → other = chain) ∧ chain.conditionals = 2 ∧
      chain.value (fun name => if name = "verb" then some 7 else none) = some 7) ∧
    ∀ others, firstNonNull? others = firstNonNull? fields → others = fields := by
  intro fields
  have hne : fields ≠ [] := List.cons_ne_nil _ _
  have hlacks : ∀ field ∈ fields, Text.Lacks '\'' field := by decide
  obtain ⟨⟨chain, htext, hunique, -, hconditionals, hvalue⟩, hothers⟩ :=
    firstNonNull?_reading hne hlacks
  refine ⟨hne, hlacks, ⟨chain, htext, hunique, hconditionals, ?_⟩, hothers⟩
  rw [hvalue]
  rfl

end AuditSearch.Expression
