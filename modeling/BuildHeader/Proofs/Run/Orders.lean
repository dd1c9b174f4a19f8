import BuildHeader.Proofs.CommandLine.Items
import BuildHeader.Proofs.Config.Fields
import BuildHeader.Proofs.Mapping
import BuildHeader.Proofs.Run.Commands
import BuildHeader.Run.Session

set_option autoImplicit false

namespace BuildHeader.Run

open CommandLine (SameTurns readVariables splitItems)

def Session.withItems (s : Session) (items : List String) : Session :=
  { s with
    arguments := { s.arguments with build := { s.arguments.build with vars := items } } }

def Session.options (s : Session) (table : Bindings) : Options :=
  buildOptions s.arguments.build (s.config.mergeVariables table)

def Session.workOn (s : Session) (o : Options) (vars : Mapping) : Script Failure Unit :=
  match s.arguments.action with
  | .generate true => rehearse s.config.delimiter o vars
  | .generate false => produce s.config.delimiter o vars
  | .vars format => printListing vars format

/-- How the tables of a run may list their bindings: the items as they are merged, the variables of
the configuration before that, and all of them as they are laid over the built-in variables. -/
structure Rows (config : Config) (pairs : List (String × String)) where
  items : List (String × String)
  configured : List (String × String)
  extras : List (String × String)
  listsItems : items.Perm (Bindings.upsertAll [] pairs)
  listsConfigured : config.templateVars.ListedBy configured
  listsExtras : extras.Perm (Bindings.upsertAll configured items)

def Rows.assemble {config : Config} {pairs : List (String × String)} (r : Rows config pairs)
    (host : Except BuildError Host) (o : Options) : Except BuildError Mapping :=
  host.bind fun host => (Version.ofText o.version).map fun version =>
    (Mapping.ofList (o.builtins version host)).layer r.extras

theorem Rows.listedBy_extras {config : Config} {pairs : List (String × String)}
    (r : Rows config pairs) :
    (config.mergeVariables (Bindings.ofList pairs)).templateVars.ListedBy r.extras := by
  have hitems : (Bindings.ofList pairs).ListedBy r.items :=
    r.listsItems.trans (Bindings.listedBy_entries .empty |>.upsertAll pairs)
  have hmerged := r.listsConfigured.upsertAll r.items
  rw [Bindings.insertAll_eq_overlay _ hitems] at hmerged
  exact r.listsExtras.trans hmerged

theorem Rows.assemble_eq {s : Session} {pairs : List (String × String)} (r : Rows s.config pairs)
    (host : Except BuildError Host) :
    r.assemble host (s.options (Bindings.ofList pairs)) =
      Run.assemble host (s.options (Bindings.ofList pairs)) := by
  simp only [Rows.assemble, Mapping.layer_eq_extend _ r.listedBy_extras]
  rfl

theorem carryOut_withItems {s : Session} {items : List String}
    (h : readVariables items = readVariables s.arguments.build.vars)
    (host : Except BuildError Host) : (s.withItems items).carryOut host = s.carryOut host := by
  have hread : readVariables (s.withItems items).arguments.build.vars =
      readVariables s.arguments.build.vars := h
  simp only [Session.carryOut, hread]
  rfl

theorem quietOn_carryOut {s : Session} {host : Except BuildError Host} {table : Bindings}
    {vars : Mapping} (hread : readVariables s.arguments.build.vars = .ok table)
    (ha : assemble host (s.options table) = .ok vars) (files : File.Tree) :
    (s.carryOut host).quietOn files = (s.workOn (s.options table) vars).quietOn files := by
  have ha' : assemble host
      (buildOptions s.arguments.build (s.config.mergeVariables table)) = .ok vars := ha
  unfold Session.workOn
  cases h : s.arguments.action with
  | generate dryRun =>
    cases dryRun with
    | false => simp [Session.carryOut, h, hread, quietOn_generate_of_ok ha']; rfl
    | true => simp [Session.carryOut, h, hread, quietOn_generate_of_ok ha']; rfl
  | vars format => simp [Session.carryOut, h, hread, quietOn_listVariables_of_ok ha']

/--
A refused list of items is refused in every order. An accepted one gives the same run in every
order that keeps the turns of each name, and however the tables list their bindings, the mapping is
the same one, with which the run does its work. A configuration does not tell in which order its
document has the variables.
-/
theorem order_never_shows (s : Session) (host : Except BuildError Host) (files : File.Tree)
    (items : List String) :
    (items.Perm s.arguments.build.vars →
      (∃ e, readVariables s.arguments.build.vars = .error e) →
      ∃ e, readVariables items = .error e) ∧
    (SameTurns s.arguments.build.vars items →
      ∀ table, readVariables s.arguments.build.vars = .ok table →
        ((s.withItems items).carryOut host).actOn files = (s.carryOut host).actOn files ∧
        ∃ pairs, splitItems items = .ok pairs ∧ ∀ rows : Rows s.config pairs,
          rows.assemble host (s.options table) = assemble host (s.options table) ∧
          ∀ vars, rows.assemble host (s.options table) = .ok vars →
            ((s.withItems items).carryOut host).quietOn files =
              (s.workOn (s.options table) vars).quietOn files) ∧
    ∀ (anchored : List Yaml.Anchored) (before after : List (Yaml.Node × Yaml.Node))
      (key node node' : Yaml.Node) (fields fields' : List (Yaml.Node × Yaml.Node)),
      Config.text? (Config.documentOf anchored []) key = some "template_vars" →
      (Config.documentOf anchored []).resolve node = some (.mapping fields) →
      (Config.documentOf anchored []).resolve node' = some (.mapping fields') →
      fields'.Perm fields →
      (Config.fieldNames (Config.documentOf anchored []) fields).Nodup →
      Config.ofDocument? (Config.documentOf anchored (before ++ (key, node') :: after)) =
        Config.ofDocument? (Config.documentOf anchored (before ++ (key, node) :: after)) := by
  refine ⟨CommandLine.readVariables_error_of_perm, fun hturns table htable => ?_, ?_⟩
  · have hitems := CommandLine.readVariables_of_sameTurns hturns htable
    have hrun := carryOut_withItems (hitems.trans htable.symm) host
    obtain ⟨pairs, hpairs, rfl⟩ := Except.map_eq_ok_iff.1 hitems
    refine ⟨by rw [hrun], pairs, hpairs, fun rows => ⟨rows.assemble_eq host, fun vars hvars => ?_⟩⟩
    rw [rows.assemble_eq] at hvars
    rw [hrun]
    exact quietOn_carryOut htable hvars files
  · intro anchored before after key node node' fields fields' hkey h h' hp distinct
    exact Config.ofDocument?_of_reordered hkey h h' hp distinct

def itemSession (items : List String) : Session where
  arguments := { action := .vars .text, build := { vars := items } }
  config := { templateVars := .ofList [("mode", "custom"), ("vendor", "acme")] }

def itemHost : Host := ⟨⟨"linux", "x86_64", "6.1", "cpu", "Linux", "ci"⟩, "builder"⟩

def itemTable : Bindings := .ofList [("vendor", "1"), ("a", "x"), ("vendor", "2")]

def descendingRows :
    Rows (itemSession ["vendor=1", "a=x", "vendor=2"]).config
      [("a", "x"), ("vendor", "1"), ("vendor", "2")] where
  items := [("vendor", "2"), ("a", "x")]
  configured := [("vendor", "acme"), ("mode", "custom")]
  extras := [("vendor", "2"), ("mode", "custom"), ("a", "x")]
  listsItems := by decide
  listsConfigured := by decide +kernel
  listsExtras := by decide

def textNode (text : String) : Yaml.Node := .scalar { text := text.toList }

theorem sameTurns_of_three_items :
    SameTurns ["vendor=1", "a=x", "vendor=2"] ["a=x", "vendor=1", "vendor=2"] := by
  refine ⟨by decide, fun key => ?_⟩
  have ha : CommandLine.named? "a=x" = some "a" := rfl
  have hfirst : CommandLine.named? "vendor=1" = some "vendor" := rfl
  have hlast : CommandLine.named? "vendor=2" = some "vendor" := rfl
  by_cases hkey : key = "a"
  · subst hkey
    decide +kernel
  · have hne : ¬"a" = key := fun same => hkey same.symm
    simp [List.filter_cons, ha, hfirst, hlast, hne]

theorem order_of_three_items_never_shows :
    (∃ e, readVariables ["bad", "a=x"] = .error e) ∧
    ((itemSession ["a=x", "vendor=1", "vendor=2"]).carryOut (.ok itemHost)).actOn ⟨["work"], []⟩ =
      ((itemSession ["vendor=1", "a=x", "vendor=2"]).carryOut (.ok itemHost)).actOn
        ⟨["work"], []⟩ ∧
    descendingRows.assemble (.ok itemHost)
        ((itemSession ["vendor=1", "a=x", "vendor=2"]).options itemTable) =
      assemble (.ok itemHost)
        ((itemSession ["vendor=1", "a=x", "vendor=2"]).options itemTable) ∧
    Config.ofDocument? (Config.documentOf [] [(textNode "template_vars",
        .mapping [(textNode "b", textNode "2"), (textNode "a", textNode "1")])]) =
      Config.ofDocument? (Config.documentOf [] [(textNode "template_vars",
        .mapping [(textNode "a", textNode "1"), (textNode "b", textNode "2")])]) := by
  obtain ⟨refused, -, document⟩ := order_never_shows (itemSession ["a=x", "bad"]) (.ok itemHost)
    ⟨["work"], []⟩ ["bad", "a=x"]
  obtain ⟨-, accepted, -⟩ := order_never_shows (itemSession ["vendor=1", "a=x", "vendor=2"])
    (.ok itemHost) ⟨["work"], []⟩ ["a=x", "vendor=1", "vendor=2"]
  obtain ⟨hrun, pairs, hpairs, hrows⟩ := accepted sameTurns_of_three_items itemTable rfl
  obtain rfl : [("a", "x"), ("vendor", "1"), ("vendor", "2")] = pairs := Except.ok.inj hpairs
  refine ⟨refused (by decide) ⟨⟨"bad"⟩, rfl⟩, hrun, (hrows descendingRows).1, ?_⟩
  exact document [] [] [] _ _ _ _ _ rfl rfl rfl (.swap _ _ _) (by decide)

end BuildHeader.Run
