import Mathlib.Data.List.Nodup
import Switchyard.Config.Servers
import Switchyard.Registry.Basic

namespace Switchyard

namespace ServerConfig

variable {c : ServerConfig} {l : List ServerConfig} {id : String}

theorem ids_override (c : ServerConfig) (l : List ServerConfig) :
    (c.override l).map (·.id) =
      if c.id ∈ l.map (·.id) then l.map (·.id) else l.map (·.id) ++ [c.id] := by
  induction l with
  | nil => rfl
  | cons d l ih =>
    rw [override]
    by_cases h : d.id = c.id
    · simp [h]
    · rw [if_neg (by simpa using h), List.map_cons, ih]
      by_cases hm : c.id ∈ l.map (·.id) <;> simp [hm, Ne.symm h]

theorem nodup_override (h : (l.map (·.id)).Nodup) : ((c.override l).map (·.id)).Nodup := by
  rw [ids_override]
  split
  · exact h
  · rename_i hc
    exact List.nodup_append.2 ⟨h, List.nodup_singleton _, fun i hi j hj hij =>
      hc (List.mem_singleton.1 hj ▸ hij ▸ hi)⟩

theorem find?_override (c : ServerConfig) (l : List ServerConfig) (id : String) :
    (c.override l).find? (·.id == id) =
      if c.id = id then some c else l.find? (·.id == id) := by
  induction l with
  | nil => by_cases h : c.id = id <;> simp [override, h]
  | cons d l ih =>
    rw [override]
    by_cases hd : d.id = c.id
    · by_cases h : c.id = id <;> simp [hd, h]
    · rw [if_neg (by simpa using hd), List.find?_cons, List.find?_cons, ih]
      by_cases h : c.id = id
      · have hdid : (d.id == id) = false := beq_false_of_ne (h ▸ hd)
        simp [hdid, h]
      · simp [h]

def overrideAll (us l : List ServerConfig) : List ServerConfig :=
  us.foldl (fun l c => c.override l) l

theorem nodup_overrideAll {us : List ServerConfig} (h : (l.map (·.id)).Nodup) :
    ((overrideAll us l).map (·.id)).Nodup := by
  induction us generalizing l with
  | nil => exact h
  | cons u us ih => exact ih (nodup_override h)

theorem ids_overrideAll (us l : List ServerConfig) :
    (overrideAll us l).map (·.id) =
      l.map (·.id) ++ ((us.map (·.id)).filter (!(l.map (·.id)).contains ·)).eraseDups := by
  induction us generalizing l with
  | nil => simp [overrideAll]
  | cons u us ih =>
    have hstep : overrideAll (u :: us) l = overrideAll us (u.override l) := rfl
    rw [hstep, ih, ids_override, List.map_cons]
    by_cases h : u.id ∈ l.map (·.id)
    · rw [if_pos h, List.filter_cons_of_neg (by simpa using h)]
    · rw [if_neg h, List.filter_cons_of_pos (by simpa using h), List.eraseDups_cons,
        List.filter_filter, List.append_assoc, List.singleton_append]
      have hp (id : String) : (!id == u.id && !(l.map (·.id)).contains id) =
          !(l.map (·.id) ++ [u.id]).contains id := by
        by_cases hid : id = u.id <;> simp [hid]
      simp only [hp]

theorem find?_overrideAll (us l : List ServerConfig) (id : String) :
    (overrideAll us l).find? (·.id == id) =
      (us.reverse.find? (·.id == id)).or (l.find? (·.id == id)) := by
  induction us generalizing l with
  | nil => rfl
  | cons u us ih =>
    have hstep : overrideAll (u :: us) l = overrideAll us (u.override l) := rfl
    rw [hstep, ih, find?_override, List.reverse_cons, List.find?_append, Option.or_assoc]
    by_cases h : u.id = id <;> simp [h]

theorem map_find?_ids (h : (l.map (·.id)).Nodup) :
    (l.map (·.id)).map (fun id => l.find? (·.id == id)) = l.map some := by
  rw [List.map_map]
  refine List.map_congr_left fun c hc => ?_
  induction l with
  | nil => cases hc
  | cons d l ih =>
    obtain ⟨hd, hl⟩ := List.nodup_cons.1 h
    cases hc with
    | head => simp
    | tail _ hc =>
      have hne : (d.id == c.id) = false :=
        beq_false_of_ne fun he => hd (List.mem_map.2 ⟨c, hc, he.symm⟩)
      simpa [hne] using ih hl hc

end ServerConfig

theorem Registry.distinct_eq {configs : List ServerConfig} (h : (configs.map (·.id)).Nodup) :
    distinct configs = configs := by
  have hfold (kept : List ServerConfig) (hk : ((kept ++ configs).map (·.id)).Nodup) :
      configs.foldl (fun kept c => if kept.any (·.id == c.id) then kept else kept ++ [c]) kept =
        kept ++ configs := by
    clear h
    induction configs generalizing kept with
    | nil => rw [List.append_nil]; rfl
    | cons c configs ih =>
      have hc : kept.any (·.id == c.id) = false := by
        refine List.any_eq_false.2 fun d hd he => ?_
        rw [List.map_append, List.nodup_append] at hk
        exact hk.2.2 _ (List.mem_map_of_mem hd) _ (by simp) (eq_of_beq he)
      have happend : kept ++ c :: configs = kept ++ [c] ++ configs := by simp
      rw [List.foldl_cons, hc, happend]
      exact ih (kept ++ [c]) (happend ▸ hk)
  exact hfold [] h

namespace Settings

variable {s : Settings}

/-- The ids of the known servers, and those that only the settings have as they first appear. -/
def serverIds (s : Settings) : List String :=
  let known := ServerConfig.known.map (·.id)
  known ++ ((s.servers.map (·.id)).filter (!known.contains ·)).eraseDups

/-- The server with an id: the last one of the settings that has it, with its references replaced,
or else the known one. -/
def server? (s : Settings) (env : Environment) (id : String) : Option ServerConfig :=
  ((s.servers.reverse.find? (·.id == id)).map (·.expand env)).or
    (ServerConfig.known.find? (·.id == id))

theorem nodup_known : (ServerConfig.known.map (·.id)).Nodup := by decide

theorem mergedServers_eq (s : Settings) (env : Environment) :
    s.mergedServers env =
      ServerConfig.overrideAll (s.servers.map (·.expand env)) ServerConfig.known := by
  rw [mergedServers, ServerConfig.overrideAll, List.foldl_map]

theorem nodup_mergedServers (s : Settings) (env : Environment) :
    ((s.mergedServers env).map (·.id)).Nodup := by
  rw [mergedServers_eq]
  exact ServerConfig.nodup_overrideAll nodup_known

theorem ids_mergedServers (s : Settings) (env : Environment) :
    (s.mergedServers env).map (·.id) = s.serverIds := by
  have hids : (s.servers.map (·.expand env)).map (·.id) = s.servers.map (·.id) := by
    rw [List.map_map]
    rfl
  rw [mergedServers_eq, ServerConfig.ids_overrideAll, hids]
  rfl

theorem find?_mergedServers (s : Settings) (env : Environment) (id : String) :
    (s.mergedServers env).find? (·.id == id) = s.server? env id := by
  rw [mergedServers_eq, ServerConfig.find?_overrideAll, ← List.map_reverse, List.find?_map]
  rfl

theorem mergedServers_map_some (s : Settings) (env : Environment) :
    (s.mergedServers env).map some = s.serverIds.map (s.server? env) := by
  rw [← ids_mergedServers s env, ← ServerConfig.map_find?_ids (nodup_mergedServers s env)]
  simp only [find?_mergedServers]

/-- The servers of a session have different ids, so a registry takes all of them. They are those of
the merged list, in its order, that the settings allow and whose command exists; the merged list has
the known ids and then those that only the settings have as they first appear, each with the last
server of the settings that has the id, or else the known one. Where servers are not enabled, there
are none. -/
theorem resolve_servers (s : Settings) (env : Environment) (commandExists : String → Bool) :
    (s.enabled = true →
      ((s.resolve env commandExists).map (·.id)).Nodup ∧
      (∀ (root : Path) (watch : Option WatchFilter) (handshakeMs : Nat),
        (Registry.ofConfigs root (s.resolve env commandExists) watch commandExists
          handshakeMs).entries.map (·.config) = s.resolve env commandExists) ∧
      ∃ merged : List ServerConfig,
        merged.map some = s.serverIds.map (s.server? env) ∧
        s.resolve env commandExists =
          merged.filter fun c => s.allows c && commandExists c.command) ∧
    (s.enabled = false → s.resolve env commandExists = []) := by
  refine ⟨fun h => ?_, fun h => by rw [resolve, if_neg (by simp [h])]⟩
  have hresolve : s.resolve env commandExists =
      (s.mergedServers env).filter fun c => s.allows c && commandExists c.command := by
    rw [resolve, if_pos h]
  have hnodup : ((s.resolve env commandExists).map (·.id)).Nodup := by
    rw [hresolve]
    exact (nodup_mergedServers s env).sublist (List.filter_sublist.map _)
  refine ⟨hnodup, fun root watch handshakeMs => ?_, s.mergedServers env,
    mergedServers_map_some s env, hresolve⟩
  have hentries (l : List ServerConfig) : (l.map Entry.ofConfig).map (·.config) = l := by
    rw [List.map_map]
    exact List.map_id'' (fun _ => rfl) l
  rw [Registry.ofConfigs, Registry.distinct_eq hnodup, hentries]

/-- Settings with a server of their own twice and another one in the place of a known one. -/
theorem resolve_servers_of_two_overrides :
    let zig (command : String) : ServerConfig := .ofLanguages "zls" "ZLS" command [] ["zig"]
    let rust : ServerConfig := .ofLanguages "rust" "Rust" "$\x7bRA\x7d" [] ["rust"]
    let s : Settings := { Settings.default with servers := [zig "absent", rust, zig "zls"] }
    let env : Environment := [("RA", "ra")]
    s.serverIds = ["typescript", "eslint", "pyright", "rust", "go", "lua", "dockerfile", "markdown",
      "json", "zls"] ∧
    s.server? env "zls" = some ((zig "zls").expand env) ∧
    s.server? env "rust" = some (rust.expand env) ∧
    ((s.resolve env (· != "absent")).map (·.id)).Nodup ∧
    ∃ merged : List ServerConfig, merged.map some = s.serverIds.map (s.server? env) ∧
      s.resolve env (· != "absent") =
        merged.filter fun c => s.allows c && c.command != "absent" := by
  intro zig rust s env
  obtain ⟨hnodup, -, hmerged⟩ := (resolve_servers s env (· != "absent")).1 rfl
  exact ⟨by decide, rfl, rfl, hnodup, hmerged⟩

end Settings

end Switchyard
