import EnumBridge.Proofs.InlinedFragment
import EnumBridge.Proofs.ReorderedSelection
import EnumBridge.Proofs.ResponseFrame
import EnumBridge.Proofs.RoundTrip

/-!
# Responses to reordered documents

Field trees of reordered selections stand in another order, on every level, and fields that are
merged may get the label of another one of them.  What stays are the chains of identities that lead
down the trees, and these decide where enum values stand in a response
(`objectSite_iff_of_chains`).

If no two fields of one selection set share a response key, the paths of any two sites part
somewhere (`ObjectOrder.parts`).  Values put at such paths do not disturb each other
(`Json.put_comm`), so the sites may be converted in any order (`convertSites_perm`).

The main statement is `reordered_selections`.
-/

set_option autoImplicit false

namespace EnumBridge

/-! ## Paths that part -/

/-- Two paths go the same way for a while, and then part. -/
inductive Path.Parts : Path → Path → Prop
  | here {step other : Step} {p q : Path} (h : step ≠ other) : Path.Parts (step :: p) (other :: q)
  | same {step : Step} {p q : Path} (h : Path.Parts p q) : Path.Parts (step :: p) (step :: q)

/-- If one path parts from another, that one parts from it. -/
theorem Path.Parts.symm {p q : Path} (h : Path.Parts p q) : Path.Parts q p := by
  induction h with
  | here hne => exact .here hne.symm
  | same _ ih => exact .same ih

namespace Json

variable {step other : Step}

/-- A replacement leaves what is below another step. -/
theorem below?_replace_of_ne (h : step ≠ other) (new value : Json) :
    (value.replace other new).below? step = value.below? step := by
  cases value with
  | array items =>
    cases step <;> cases other <;> simp only [replace, below?]
    case item.item index place =>
      have hne : place ≠ index := fun heq => h (by rw [heq])
      exact List.getElem?_set_ne hne
  | object members =>
    cases step <;> cases other <;> simp only [replace, below?]
    case member.member name key =>
      have hne : name ≠ key := fun heq => h (by rw [heq])
      exact Members.lookup_replace_of_ne hne new members
  | _ => cases other <;> rfl

/-- Replacements at different steps may be made in either order. -/
theorem replace_comm (h : step ≠ other) (first second value : Json) :
    (value.replace step first).replace other second =
      (value.replace other second).replace step first := by
  cases value with
  | array items =>
    cases step <;> cases other <;> simp only [replace]
    case item.item index place =>
      have hne : index ≠ place := fun heq => h (by rw [heq])
      rw [List.set_comm _ _ hne]
  | object members =>
    cases step <;> cases other <;> simp only [replace]
    case member.member name key =>
      have hne : key ≠ name := fun heq => h (by rw [heq])
      rw [Members.replace_comm hne]
  | _ => cases step <;> cases other <;> rfl

/-- A path whose first step leads nowhere changes nothing. -/
theorem put_of_below?_eq_none {value : Json} (h : value.below? step = none) (new : Json)
    (rest : Path) : put new (step :: rest) value = value := by
  simp [put, h]

/-- **Values put at paths that part** do not disturb each other. -/
theorem put_comm {p q : Path} (h : Path.Parts p q) (first second value : Json) :
    put second q (put first p value) = put first p (put second q value) := by
  induction h generalizing value with
  | @here step other p q hne =>
    cases hstep : value.below? step with
    | none =>
      cases hother : value.below? other with
      | none =>
        rw [put_of_below?_eq_none hstep, put_of_below?_eq_none hother, put_of_below?_eq_none hstep]
      | some inner =>
        have hkept := below?_replace_of_ne hne (put second q inner) value
        rw [hstep] at hkept
        rw [put_of_below?_eq_none hstep, put_cons hother, put_of_below?_eq_none hkept]
    | some inner =>
      have hkept := below?_replace_of_ne hne.symm (put first p inner) value
      cases hother : value.below? other with
      | none =>
        rw [hother] at hkept
        rw [put_cons hstep, put_of_below?_eq_none hkept, put_of_below?_eq_none hother,
          put_cons hstep]
      | some outer =>
        have hback := below?_replace_of_ne hne (put second q outer) value
        rw [hother] at hkept
        rw [hstep] at hback
        rw [put_cons hstep, put_cons hkept, put_cons hother, put_cons hback, replace_comm hne]
  | @same step p q h ih =>
    cases hstep : value.below? step with
    | none => rw [put_of_below?_eq_none hstep, put_of_below?_eq_none hstep,
        put_of_below?_eq_none hstep]
    | some inner =>
      rw [put_cons hstep, put_cons (below?_replace hstep _), put_cons hstep,
        put_cons (below?_replace hstep _), replace_replace, replace_replace, ih]

end Json

namespace Bridge

/-- Sites are converted if the first one can be and then the others, with the result in place. -/
theorem convertSites_cons_eq_ok {bridge : Bridge} {direction : Direction} {site : EnumSite}
    {rest : List EnumSite} {value out : Json} :
    bridge.convertSites direction (site :: rest) value = .ok out ↔
      ∃ new, (bridge.convert site.enumName direction site.value).outcome = .ok new ∧
        bridge.convertSites direction rest (Json.put new site.path value) = .ok out := by
  rw [convertSites_cons]
  cases (bridge.convert site.enumName direction site.value).outcome with
  | error e => simp [Except.bind]
  | ok new => simp [Except.bind]

/-- **Sites whose paths part may be converted in any order.**  Only the error, if there are several,
depends on it. -/
theorem convertSites_perm {bridge : Bridge} {direction : Direction} {sites others : List EnumSite}
    (hperm : sites.Perm others)
    (hparts : sites.Pairwise fun first second => Path.Parts first.path second.path)
    {value out : Json} (h : bridge.convertSites direction sites value = .ok out) :
    bridge.convertSites direction others value = .ok out := by
  induction hperm generalizing value with
  | nil => exact h
  | cons site _ ih =>
    obtain ⟨new, hnew, hrest⟩ := convertSites_cons_eq_ok.mp h
    exact convertSites_cons_eq_ok.mpr ⟨new, hnew, ih (List.pairwise_cons.mp hparts).2 hrest⟩
  | swap first second rest =>
    have hswap : Path.Parts second.path first.path :=
      (List.pairwise_cons.mp hparts).1 first List.mem_cons_self
    obtain ⟨new, hnew, hbehind⟩ := convertSites_cons_eq_ok.mp h
    obtain ⟨other, hother, hrest⟩ := convertSites_cons_eq_ok.mp hbehind
    rw [Json.put_comm hswap] at hrest
    apply convertSites_cons_eq_ok.mpr
    refine ⟨other, hother, ?_⟩
    apply convertSites_cons_eq_ok.mpr
    exact ⟨new, hnew, hrest⟩
  | trans hfirst _ ih ih' =>
    have hothers := (hfirst.pairwise_iff fun {_ _} hpaths => hpaths.symm).mp hparts
    exact ih' hothers (ih hparts h)

end Bridge

/-! ## Chains decide where enum values stand -/

/-- The same chains of identities lead down two lists of trees. -/
def SameChains (nodes others : List FieldNode) : Prop :=
  ∀ chain, HasChain nodes chain ↔ HasChain others chain

section Chains

variable {nodes others : List FieldNode}

/-- To have the same chains is symmetric. -/
theorem SameChains.symm (h : SameChains nodes others) : SameChains others nodes :=
  fun chain => (h chain).symm

/-- The tree that begins a chain. -/
theorem HasChain.exists_node {identity : String × String} {rest : List (String × String)}
    (h : HasChain nodes (identity :: rest)) :
    ∃ node ∈ nodes, node.label.identity = identity ∧ HasChain node.children rest := by
  generalize hchain : identity :: rest = chain at h
  cases h with
  | nil => cases hchain
  | cons hnode hrest =>
    cases hchain
    exact ⟨_, hnode, rfl, hrest⟩

/-- The trees of a level differ in their identities, so the chains below one of them are those that
begin with it. -/
theorem hasChain_children_iff (hnodup : (nodes.map fun node => node.label.identity).Nodup)
    {node : FieldNode} (hnode : node ∈ nodes) (chain : List (String × String)) :
    HasChain node.children chain ↔ HasChain nodes (node.label.identity :: chain) := by
  refine ⟨.cons hnode, fun h => ?_⟩
  obtain ⟨other, hother, hidentity, hbelow⟩ := h.exists_node
  rw [List.inj_on_of_nodup_map hnodup hother hnode hidentity] at hbelow
  exact hbelow

/-- Where the same chains begin, there are trees of the same identities, and below these the same
chains. -/
theorem exists_alike (hchains : SameChains nodes others)
    (hnodup : (nodes.map fun node => node.label.identity).Nodup)
    (hothers : (others.map fun node => node.label.identity).Nodup) {node : FieldNode}
    (hnode : node ∈ nodes) :
    ∃ other ∈ others, other.label.identity = node.label.identity ∧
      SameChains node.children other.children := by
  have hsingle : HasChain others [node.label.identity] := (hchains _).mp (.cons hnode .nil)
  obtain ⟨other, hother, hidentity, -⟩ := hsingle.exists_node
  refine ⟨other, hother, hidentity, fun chain => ?_⟩
  rw [hasChain_children_iff hnodup hnode, hchains, ← hidentity,
    hasChain_children_iff hothers hother]

/-- Labels of one identity have the same response key and the same name. -/
theorem FieldLabel.of_identity_eq {label other : FieldLabel} (h : other.identity = label.identity) :
    other.responseKey = label.responseKey ∧ other.name = label.name :=
  Prod.ext_iff.mp h

/-- Response keys that are distinct are so in any other order of the trees. -/
theorem DistinctBy.of_chains (hkeys : DistinctBy FieldLabel.responseKey nodes)
    (hnodes : DistinctBy FieldLabel.identity nodes)
    (hothers : DistinctBy FieldLabel.identity others)
    (hchains : SameChains nodes others) :
    DistinctBy FieldLabel.responseKey others := by
  induction hothers generalizing nodes with
  | @mk others hnodup hbelow ih =>
    refine ⟨?_, fun other hother children hchildren => ?_⟩
    · apply (List.nodup_map_iff_inj_on hnodup.of_map).mpr
      intro first hfirst second hsecond hkey
      obtain ⟨node, hnode, hidentity, -⟩ :=
        exists_alike hchains.symm hnodup hnodes.nodup hfirst
      obtain ⟨node', hnode', hidentity', -⟩ :=
        exists_alike hchains.symm hnodup hnodes.nodup hsecond
      have hsame : node.label.responseKey = node'.label.responseKey := by
        rw [(FieldLabel.of_identity_eq hidentity).1, (FieldLabel.of_identity_eq hidentity').1, hkey]
      rw [List.inj_on_of_nodup_map hkeys.nodup hnode hnode' hsame] at hidentity
      exact List.inj_on_of_nodup_map hnodup hfirst hsecond (hidentity.symm.trans hidentity')
    · obtain ⟨node, hnode, -, halike⟩ :=
        exists_alike hchains.symm hnodup hnodes.nodup hother
      have hown : other.children = children := by
        rw [FieldNode.children, hchildren, Option.getD_some]
      rw [hown] at halike
      exact ih other hother children hchildren (hkeys.children hnode) (hnodes.children hnode)
        halike.symm

end Chains

variable {schema : Schema}

mutual

/-- A site of an object is one for any other trees with the same chains. -/
theorem ObjectSite.of_chains {types : FieldTable} {nodes others : List FieldNode} {object : Members}
    {site : EnumSite} (hnodes : DistinctBy FieldLabel.identity nodes)
    (hothers : DistinctBy FieldLabel.identity others)
    (hchains : SameChains nodes others) :
    ObjectSite schema types nodes object site → ObjectSite schema types others object site
  | .mk hnode htype hheld h => by
    obtain ⟨other, hother, hidentity, halike⟩ :=
      exists_alike hchains hnodes.nodup hothers.nodup hnode
    obtain ⟨hkey, hname⟩ := FieldLabel.of_identity_eq hidentity
    have hinner := FieldSite.of_chains (hnodes.children hnode) (hothers.children hother) halike h
    rw [← hkey] at hheld ⊢
    rw [← hname] at htype
    exact .mk hother htype hheld hinner

/-- A site of the value of a field is one for any other tree with the same chains below it. -/
theorem FieldSite.of_chains {node other : FieldNode} {type : TypeRef} {value : Json}
    {site : EnumSite} (hnode : DistinctBy FieldLabel.identity node.children)
    (hother : DistinctBy FieldLabel.identity other.children)
    (hchains : SameChains node.children other.children) :
    FieldSite schema node type value site → FieldSite schema other type value site
  | .nonNull h => .nonNull (FieldSite.of_chains hnode hother hchains h)
  | .item hitem h => .item hitem (FieldSite.of_chains hnode hother hchains h)
  | .enum henum hvalue => .enum henum hvalue
  | .object hfind hfields h => by
    -- There is a field below, so the other tree has fields below it as well.
    have hinner := ObjectSite.of_chains hnode hother hchains h
    cases other with
    | leaf label =>
      cases hinner with
      | mk hnone => cases hnone
    | branch label children => exact .object hfind hfields hinner

end

/-- **Chains decide where enum values stand.** -/
theorem objectSite_iff_of_chains {types : FieldTable} {nodes others : List FieldNode}
    {object : Members} (hnodes : DistinctBy FieldLabel.identity nodes)
    (hothers : DistinctBy FieldLabel.identity others)
    (hchains : SameChains nodes others) (site : EnumSite) :
    ObjectSite schema types nodes object site ↔ ObjectSite schema types others object site :=
  ⟨.of_chains hnodes hothers hchains, .of_chains hothers hnodes hchains.symm⟩

/-! ## The order of the sites -/

mutual

/-- If response keys are distinct, paths of which one comes before the other part. -/
theorem ObjectOrder.parts {nodes : List FieldNode} {p q : Path}
    (hkeys : DistinctBy FieldLabel.responseKey nodes) : ObjectOrder nodes p q → Path.Parts p q
  | .fields h => by
    have hpair := hkeys.nodup.sublist (h.map fun node => node.label.responseKey)
    refine .here fun hsame => ?_
    injection hsame with hsame
    simp [hsame] at hpair
  | .field hnode h => .same (FieldOrder.parts (hkeys.children hnode) h)

/-- If response keys are distinct below a field, paths into its value of which one comes before the
other part. -/
theorem FieldOrder.parts {node : FieldNode} {p q : Path}
    (hkeys : DistinctBy FieldLabel.responseKey node.children) :
    FieldOrder node p q → Path.Parts p q
  | .items h => .here fun hsame => by
    injection hsame with hsame
    exact Nat.ne_of_lt h hsame
  | .item h => .same (FieldOrder.parts hkeys h)
  | .object h => ObjectOrder.parts hkeys h

end

/-- A path does not part from itself. -/
theorem Path.Parts.irrefl (path : Path) : ¬ Path.Parts path path := by
  intro h
  induction path with
  | nil => cases h
  | cons step rest ih =>
    cases h with
    | here hne => exact hne rfl
    | same h => exact ih h

namespace Bridge

variable {bridge : Bridge}

/-- The same sites, converted in two orders of paths that part, make the same value. -/
theorem Converts.eq_ok {direction : Direction} {isSite isOther : EnumSite → Prop}
    {before earlier : Path → Path → Prop} {value out : Json}
    {result other : Except BridgeError Json}
    (h : bridge.Converts direction isSite before value result)
    (h' : bridge.Converts direction isOther earlier value other)
    (hsites : ∀ site, isSite site ↔ isOther site) (hparts : ∀ p q, before p q → Path.Parts p q)
    (hothers : ∀ p q, earlier p q → Path.Parts p q) (hok : result = .ok out) : other = .ok out := by
  obtain ⟨sites, henum, rfl⟩ := h
  obtain ⟨permuted, hpermuted, rfl⟩ := h'
  have hpart := henum.ordered.imp (hparts _ _)
  have hpart' := hpermuted.ordered.imp (hothers _ _)
  have hnodup {list : List EnumSite}
      (hlist : list.Pairwise fun first second => Path.Parts first.path second.path) :
      list.Nodup := by
    refine hlist.imp fun hpaths hsame => ?_
    rw [hsame] at hpaths
    exact Path.Parts.irrefl _ hpaths
  have hperm : sites.Perm permuted := by
    refine (List.perm_ext_iff_of_nodup (hnodup hpart) (hnodup hpart')).mpr fun site => ?_
    rw [henum.mem_iff, hpermuted.mem_iff]
    exact hsites site
  exact convertSites_perm hperm hpart hok

/-- Field trees with the same chains make the same of an object, if response keys are distinct. -/
theorem parseFields_eq_ok_of_chains {types : FieldTable} {nodes others : List FieldNode}
    {members : Members} {out : Json} (hkeys : DistinctBy FieldLabel.responseKey nodes)
    (hnodes : DistinctBy FieldLabel.identity nodes)
    (hothers : DistinctBy FieldLabel.identity others)
    (hchains : SameChains nodes others)
    (h : (Json.object <$> bridge.parseFields types nodes members).outcome = .ok out) :
    (Json.object <$> bridge.parseFields types others members).outcome = .ok out := by
  have hkeys' : DistinctBy FieldLabel.responseKey others :=
    hkeys.of_chains hnodes hothers hchains
  have hwalk := (convertsSlots_parseFields bridge nodes hkeys types members).converts
  have hwalk' := (convertsSlots_parseFields bridge others hkeys' types members).converts
  exact hwalk.eq_ok hwalk' (objectSite_iff_of_chains hnodes hothers hchains)
    (fun _ _ => ObjectOrder.parts hkeys) (fun _ _ => ObjectOrder.parts hkeys') h

/-- The data of an operation is parsed to the same result if its selections are reordered, as long
as response keys are distinct. -/
theorem parseOperationData_reordered {document modified : Document} {operation other : Operation}
    {nodes others : List FieldNode}
    (htables : TablesReordered document.fragmentTable modified.fragmentTable)
    (h : operation.Reordered other) (hkeys : DistinctBy FieldLabel.responseKey nodes)
    (hnodes : (flatten document.fragmentTable operation.selections).outcome = .ok nodes)
    (hothers : (flatten modified.fragmentTable other.selections).outcome = .ok others)
    (data out : Json) :
    (bridge.parseOperationData document operation data).outcome = .ok out ↔
      (bridge.parseOperationData modified other data).outcome = .ok out := by
  have hresolves := resolves_of_flatten hnodes
  have hresolves' := resolves_of_flatten hothers
  have hchains : SameChains nodes others := by
    intro chain
    rw [← hresolves.chain_iff, ← hresolves'.chain_iff]
    exact selectsChain_iff_of_reordered htables h.selections chain
  have hkeys' : DistinctBy FieldLabel.responseKey others :=
    hkeys.of_chains hresolves.distinct hresolves'.distinct hchains
  unfold parseOperationData
  rw [h.kind]
  cases (bridge.schema.root? operation.kind).bind TypeDef.objectFields? with
  | none => rfl
  | some fields =>
    cases data with
    | object members =>
      simp only [Attempt.outcome_bind, Attempt.outcome_mapError, hnodes, hothers]
      constructor
      · exact parseFields_eq_ok_of_chains hkeys hresolves.distinct hresolves'.distinct hchains
      · exact parseFields_eq_ok_of_chains hkeys' hresolves'.distinct hresolves.distinct
          hchains.symm
    | _ => rfl

end Bridge

/-- **The order of selections does not matter.**  Let two documents differ in the order of their
selections only, in any selection sets.  Flattening reordered selections succeeds in both documents
or in neither.  Under every name there is the same operation in both, up to this order, or none.  If
it can be flattened, and no two fields of one selection set of the first result share a response
key, then data is parsed to the same result in both documents, or to none in either. -/
theorem reordered_selections {document modified : Document} (h : document.Reordered modified) :
    (∀ selections others, SelectionsReordered selections others →
      ((∃ nodes, (flatten document.fragmentTable selections).outcome = .ok nodes) ↔
        ∃ nodes, (flatten modified.fragmentTable others).outcome = .ok nodes)) ∧
    ∀ operationName,
      Option.Rel Operation.Reordered (document.operation? operationName)
        (modified.operation? operationName) ∧
      ∀ operation nodes, document.operation? operationName = some operation →
        (flatten document.fragmentTable operation.selections).outcome = .ok nodes →
        DistinctBy FieldLabel.responseKey nodes →
        ∀ (bridge : Bridge) (data out : Json),
          (bridge.parseData document operationName data).outcome = .ok out ↔
            (bridge.parseData modified operationName data).outcome = .ok out := by
  refine ⟨fun selections others => exists_flatten_iff_of_reordered h.tables,
    fun operationName => ⟨h.operation? operationName, ?_⟩⟩
  intro operation nodes hoperation hnodes hkeys bridge data out
  unfold Bridge.parseData
  split
  · rfl
  · have hfound := h.operation? operationName
    rw [hoperation] at hfound ⊢
    generalize modified.operation? operationName = other? at hfound ⊢
    cases hfound with
    | some hsame =>
      obtain ⟨others, hothers⟩ :=
        exists_flatten_of_reordered h.tables hsame.selections ⟨nodes, hnodes⟩
      exact Bridge.parseOperationData_reordered h.tables hsame hkeys hnodes hothers data out

/-- `nestedOperation` with the fields of pets in another order. -/
def swappedOperation : Operation :=
  { nestedOperation with
    selections :=
      [.field ⟨some "all", "pets"⟩
        [.inlineFragment (some "Cat") [.spread "Coated" ⟨1, 1⟩], .field ⟨none, "__typename"⟩ []]] }

/-- With the fields of pets in another order the data of pets is parsed as before. -/
theorem reordered_selections_pets :
    Document.Reordered ⟨[.operation nestedOperation, .fragment coatedFragment]⟩
        ⟨[.operation swappedOperation, .fragment coatedFragment]⟩ ∧
      (flatten [coatedFragment] nestedOperation.selections).outcome = .ok petNodes ∧
      DistinctBy FieldLabel.responseKey petNodes ∧
      (petBridge.parseData ⟨[.operation swappedOperation, .fragment coatedFragment]⟩ none
        (.object petData)).outcome = .ok (.object petDataParsed) := by
  have hmoved : SelectionsReordered
      [.inlineFragment (some "Cat") [.spread "Coated" ⟨2, 1⟩], .field ⟨none, "__typename"⟩ []]
      [.inlineFragment (some "Cat") [.spread "Coated" ⟨1, 1⟩], .field ⟨none, "__typename"⟩ []] :=
    .cons (.inlineFragment (.cons .spread .zero)) (.cons (.field .zero) .zero)
  have hreordered : Document.Reordered ⟨[.operation nestedOperation, .fragment coatedFragment]⟩
      ⟨[.operation swappedOperation, .fragment coatedFragment]⟩ := by
    have hbelow := hmoved.of_perm (List.Perm.swap _ _ [])
    exact .cons (.operation ⟨rfl, rfl, rfl, .cons (.field hbelow) .zero⟩)
      (.cons (.fragment ⟨rfl, rfl, SelectionsReordered.refl _⟩) .nil)
  have hnodes : (flatten [coatedFragment] nestedOperation.selections).outcome = .ok petNodes := rfl
  refine ⟨hreordered, hnodes, petNodes_keys, ?_⟩
  have hparsed := ((reordered_selections hreordered).2 none).2 nestedOperation petNodes rfl hnodes
    petNodes_keys petBridge (.object petData) (.object petDataParsed)
  exact hparsed.mp rfl

end EnumBridge
