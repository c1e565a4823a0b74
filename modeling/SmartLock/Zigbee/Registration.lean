import Mathlib.Data.List.Nodup
import SmartLock.Effects.Dependence
import SmartLock.Zigbee.DataModel

/-! # What the task asks for

`Zigbee::rtosTask` against the rules of the stack. The task builds its lists behind pointers of
which it knows only that they are new, so a cluster list under construction is described by what was
asked for behind its pointers.

* **`wp_addAttr`, `wp_updateAttr`, `wp_attach`** — one rule for each kind of call.
* **`SetupRecord.Building`** — a cluster list under construction; new lists leave it as it is.
* **`rtosTask_asks`** — the device that the task asks the stack to register, with six clusters, and
  the only call of the task that breaks the rules: the list of the Door Lock cluster is added as a
  second On/Off cluster.
* **`rtosTask_registration`** — both callbacks are registered, whatever the stack answers.
* **`rtosTask_eq_of_used`** — no status but that of `esp_zb_start` makes a difference to it. -/

namespace SmartLock

open Effects

/-! ## One rule for each call -/

section Rules

variable {s : SetupRecord} {p : ListPtr}

/-- Creating an attribute list. -/
theorem wp_attrListCreate {Q : ListPtr → SetupRecord → Prop} (clusterId : UInt16)
    (h : ∀ p, s.Fresh p → Q p (s.put p (.attrs (.created (.empty clusterId))))) :
    Program.wp setupContract (espZbZclAttrListCreate clusterId) Q s := ⟨rfl, h⟩

/-- Creating a cluster with its mandatory attributes. -/
theorem wp_clusterCreate {Q : ListPtr → SetupRecord → Prop} (cfg : ClusterCfg)
    (h : ∀ p, s.Fresh p → Q p (s.put p (.attrs (.created (.mandatory cfg))))) :
    Program.wp setupContract (Program.call (SetupOp.clusterCreate cfg)) Q s := ⟨rfl, h⟩

/-- Creating a cluster list. -/
theorem wp_clusterListCreate {Q : ListPtr → SetupRecord → Prop}
    (h : ∀ p, s.Fresh p → Q p (s.put p (.clusters []))) :
    Program.wp setupContract espZbZclClusterListCreate Q s := ⟨rfl, h⟩

variable {Q : Unit → SetupRecord → Prop} {l : AttrListRequest}

/-- A request on the list that was created last. -/
theorem SetupRecord.request_put (s : SetupRecord) (p : ListPtr) (l : AttrListRequest)
    (request : AttrRequest) :
    (s.put p (.attrs l)).request p request = s.put p (.attrs (l.push request)) := by
  rw [SetupRecord.request, attrsAt_put_self, Option.elim_some, put_put_self]

/-- Adding an attribute to the list that was created last. -/
theorem wp_addAttr {cluster : ZclCluster} {attrId : UInt16} {value : List UInt8}
    (hcluster : l.creation.clusterId = cluster.id) (hattr : ¬ l.Has attrId)
    (h : Q () (s.put p (.attrs (l.push (.add cluster attrId value))))) :
    Program.wp setupContract (Program.perform (SetupOp.clusterAddAttr cluster p attrId value)) Q
      (s.put p (.attrs l)) := by
  have hmay : (s.put p (.attrs l)).allows (.clusterAddAttr cluster p attrId value) = true := by
    rw [SetupRecord.allows, SetupRecord.attrsAt_put_self]
    exact decide_eq_true ⟨hcluster, hattr⟩
  refine ⟨hmay, fun r _ => ?_⟩
  rw [← SetupRecord.request_put] at h
  exact h

/-- Updating an attribute of the list that was created last. -/
theorem wp_updateAttr {attrId : UInt16} {value : List UInt8} (hattr : l.Has attrId)
    (h : Q () (s.put p (.attrs (l.push (.update attrId value))))) :
    Program.wp setupContract (Program.perform (SetupOp.espZbClusterUpdateAttr p attrId value)) Q
      (s.put p (.attrs l)) := by
  have hmay : (s.put p (.attrs l)).allows (.espZbClusterUpdateAttr p attrId value) = true := by
    rw [SetupRecord.allows, SetupRecord.attrsAt_put_self]
    exact decide_eq_true hattr
  refine ⟨hmay, fun r _ => ?_⟩
  rw [← SetupRecord.request_put] at h
  exact h

end Rules

/-! ## A cluster list under construction -/

/-- A cluster with the server role. -/
def serverCluster (cluster : ZclCluster) (l : AttrListRequest) :
    ClusterRequest (Option AttrListRequest) where
  cluster := cluster
  roleMask := clusterServerRole
  attrList := some l

/-- The stack is initialized and not started, and the cluster list, which is part of no other list
yet, holds the clusters. `lists` are the attribute lists that exist, `used` the lists that are part
of another one. -/
structure SetupRecord.Building (s : SetupRecord) (clusterList : ListPtr)
    (lists : ListPtr → Option AttrListRequest) (used : List ListPtr)
    (clusters : List (ClusterRequest (Option AttrListRequest))) : Prop where
  initialized : s.initialized = true
  started : s.started = false
  attrsAt_eq : s.attrsAt = lists
  used_eq : s.used = used
  not_used_of_fresh : ∀ p, s.Fresh p → p ∉ used
  unused : clusterList ∉ used
  holds : ∃ entries, s.clustersAt clusterList = some entries ∧
    s.resolveClusters entries = clusters ∧ ∀ entry ∈ entries, (lists entry.attrList).isSome

namespace SetupRecord

variable {s : SetupRecord} {p clusterList : ListPtr} {lists : ListPtr → Option AttrListRequest}
  {used : List ListPtr} {clusters : List (ClusterRequest (Option AttrListRequest))}

/-- A list that exists is not new. -/
theorem Fresh.ne_of_attrsAt {q : ListPtr} (hp : s.Fresh p) (hq : (s.attrsAt q).isSome) : q ≠ p := by
  rintro rfl
  rw [attrsAt, hp.2] at hq
  cases hq

theorem Fresh.ne_of_clustersAt {q : ListPtr} {entries : List (ClusterRequest ListPtr)}
    (hp : s.Fresh p) (hq : s.clustersAt q = some entries) : q ≠ p := by
  rintro rfl
  rw [clustersAt, hp.2] at hq
  cases hq

/-- Clusters stay as they are when another list than theirs is put. -/
theorem resolveClusters_put {entries : List (ClusterRequest ListPtr)} (l : ListRequest)
    (hne : ∀ entry ∈ entries, entry.attrList ≠ p) :
    (s.put p l).resolveClusters entries = s.resolveClusters entries := by
  refine List.map_congr_left fun entry hentry => ?_
  rw [attrsAt_put, if_neg (hne entry hentry)]

/-- **A new attribute list** leaves the construction as it is. -/
theorem Building.put (h : s.Building clusterList lists used clusters) (hp : s.Fresh p)
    (l : AttrListRequest) :
    (s.put p (.attrs l)).Building clusterList (Function.update lists p (some l)) used clusters := by
  obtain ⟨entries, hentries, hclusters, hlive⟩ := h.holds
  rw [← h.attrsAt_eq] at hlive
  have hattrs : (s.put p (.attrs l)).attrsAt = Function.update lists p (some l) := by
    funext q
    rw [attrsAt_put, h.attrsAt_eq, Function.update_apply]
    rfl
  refine ⟨h.initialized, h.started, hattrs, h.used_eq, ?_, h.unused, entries, ?_, ?_, ?_⟩
  · intro q hq
    exact h.not_used_of_fresh q ((fresh_put s p q _).mp hq).2
  · rw [clustersAt_put, if_neg (hp.ne_of_clustersAt hentries), hentries]
  · rw [resolveClusters_put _ (fun entry hentry => hp.ne_of_attrsAt (hlive entry hentry)),
      hclusters]
  · intro entry hentry
    have hentry := hlive entry hentry
    rwa [← hattrs, attrsAt_put, if_neg (hp.ne_of_attrsAt hentry)]

/-- A cluster list is not an attribute list. -/
theorem attrsAt_of_clustersAt {entries : List (ClusterRequest ListPtr)}
    (hentries : s.clustersAt p = some entries) : s.attrsAt p = none := by
  rw [clustersAt] at hentries
  rw [attrsAt]
  cases hlist : s.lists p with
  | none => rfl
  | some l =>
      rw [hlist] at hentries
      cases l with
      | clusters entries => rfl
      | attrs l => cases hentries
      | endpoints l => cases hentries

/-- Changing a cluster list does not change the attribute lists. -/
theorem attrsAt_put_clusters {entries entries' : List (ClusterRequest ListPtr)}
    (hentries : s.clustersAt p = some entries) :
    (s.put p (.clusters entries')).attrsAt = s.attrsAt := by
  funext q
  rw [attrsAt_put]
  split
  · next hq =>
      rw [hq, attrsAt_of_clustersAt hentries]
      rfl
  · rfl

/-- Clusters depend on the attribute lists only. -/
theorem resolveClusters_congr {s' : SetupRecord} (h : s'.attrsAt = s.attrsAt)
    (entries : List (ClusterRequest ListPtr)) :
    s'.resolveClusters entries = s.resolveClusters entries := by
  rw [resolveClusters, h, resolveClusters]

/-- **A cluster that is added** stands last, and the attribute lists stay as they are. -/
theorem Building.next_attach {attrList : ListPtr} {l : AttrListRequest}
    (h : s.Building clusterList lists used clusters) (hl : lists attrList = some l)
    (cluster : ZclCluster) (r : EspErr) :
    (s.next ⟨.clusterListAddCluster cluster clusterList attrList clusterServerRole, r⟩).Building
      clusterList lists (attrList :: used) (clusters ++ [serverCluster cluster l]) := by
  obtain ⟨entries, hentries, hclusters, hlive⟩ := h.holds
  rw [← h.attrsAt_eq] at hl hlive
  have hlist : (s.attrsAt attrList).isSome := by rw [hl]; rfl
  have hne : clusterList ≠ attrList := by
    rintro rfl
    rw [attrsAt_of_clustersAt hentries] at hl
    cases hl
  have hattrs : ((s.use attrList).put clusterList (.clusters (entries ++
      [{ cluster := cluster, roleMask := clusterServerRole, attrList := attrList }]))).attrsAt
        = s.attrsAt := attrsAt_put_clusters (s := s.use attrList) hentries
  simp only [next, hentries, Option.elim_some]
  refine ⟨h.initialized, h.started, hattrs.trans h.attrsAt_eq, congrArg _ h.used_eq, ?_, ?_, _,
    clustersAt_put_self _ _ _, ?_, ?_⟩
  · intro q hq
    have hq : s.Fresh q := ((fresh_put _ _ _ _).mp hq).2
    exact List.not_mem_cons_of_ne_of_not_mem (hq.ne_of_attrsAt hlist).symm
      (h.not_used_of_fresh q hq)
  · exact List.not_mem_cons_of_ne_of_not_mem hne h.unused
  · rw [resolveClusters_congr hattrs, resolveClusters, List.map_append, List.map_singleton, hl]
    exact congrArg (· ++ _) hclusters
  · rw [← h.attrsAt_eq]
    intro entry hentry
    rcases List.mem_append.mp hentry with hentry | hentry
    · exact hlive entry hentry
    · obtain rfl := List.mem_singleton.mp hentry
      exact hlist

/-- A list of another cluster may not be added. -/
theorem not_allows_attach {attrList : ListPtr} {l : AttrListRequest} {cluster : ZclCluster}
    (h : s.Building clusterList lists used clusters) (hl : lists attrList = some l)
    (hcluster : l.creation.clusterId ≠ cluster.id) (roleMask : UInt8) :
    ¬ s.allows (.clusterListAddCluster cluster clusterList attrList roleMask) = true := by
  intro hmay
  have hown := (of_decide_eq_true hmay).2.1
  rw [h.attrsAt_eq, hl] at hown
  exact hcluster (of_decide_eq_true hown)

end SetupRecord

/-- **Adding a cluster** by its own function, once, and with a list that is not in use. -/
theorem wp_attach {Q : Unit → SetupRecord → Prop} {s : SetupRecord} {clusterList attrList : ListPtr}
    {lists : ListPtr → Option AttrListRequest} {used : List ListPtr}
    {clusters : List (ClusterRequest (Option AttrListRequest))} {cluster : ZclCluster}
    {l : AttrListRequest} (hs : s.Building clusterList lists used clusters)
    (hl : lists attrList = some l) (hcluster : l.creation.clusterId = cluster.id)
    (hunused : attrList ∉ used) (hother : ∀ c ∈ clusters, c.cluster ≠ cluster)
    (h : ∀ s' : SetupRecord, s'.Building clusterList lists (attrList :: used)
      (clusters ++ [serverCluster cluster l]) → Q () s') :
    Program.wp setupContract
      (Program.perform (SetupOp.clusterListAddCluster cluster clusterList attrList
        clusterServerRole)) Q s := by
  obtain ⟨entries, hentries, hclusters, -⟩ := hs.holds
  have hnew : ∀ entry ∈ entries,
      ¬ (entry.cluster = cluster ∧ entry.roleMask = clusterServerRole) := by
    intro entry hentry hsame
    rw [← hclusters] at hother
    exact hother _ (List.mem_map_of_mem hentry) hsame.1
  have hmay : s.allows (.clusterListAddCluster cluster clusterList attrList clusterServerRole)
      = true := by
    rw [SetupRecord.allows, hs.used_eq, hs.attrsAt_eq, hl, hentries]
    exact decide_eq_true ⟨hunused, decide_eq_true hcluster, decide_eq_true hnew⟩
  exact ⟨hmay, fun r _ => h _ (hs.next_attach hl cluster r)⟩

/-! ## The endpoint -/

/-- The record with a list of one endpoint. -/
def SetupRecord.withEndpoint (s : SetupRecord) (epList clusterList : ListPtr)
    (cfg : EspZbEndpointConfig) : SetupRecord :=
  ((s.put epList (.endpoints [])).use clusterList).put epList (.endpoints [(cfg, clusterList)])

section Endpoint

variable {s : SetupRecord} {clusterList epList : ListPtr}
  {lists : ListPtr → Option AttrListRequest} {used : List ListPtr}
  {clusters : List (ClusterRequest (Option AttrListRequest))}

/-- The attribute lists stay as they are. -/
theorem SetupRecord.attrsAt_withEndpoint (hep : s.Fresh epList) (cfg : EspZbEndpointConfig) :
    (s.withEndpoint epList clusterList cfg).attrsAt = s.attrsAt := by
  have hnone : s.attrsAt epList = none := by
    rw [attrsAt, hep.2]
    rfl
  funext q
  rw [withEndpoint, attrsAt_put]
  split
  · next hq =>
      rw [hq, hnone]
      rfl
  · next hq =>
      change (s.put epList (.endpoints [])).attrsAt q = s.attrsAt q
      rw [attrsAt_put, if_neg hq]

/-- **The device behind the endpoint list** has the clusters of the cluster list. -/
theorem SetupRecord.Building.resolve_withEndpoint (hs : s.Building clusterList lists used clusters)
    (hep : s.Fresh epList) (cfg : EspZbEndpointConfig) :
    (s.withEndpoint epList clusterList cfg).resolve epList = some [(cfg, clusters)] := by
  obtain ⟨entries, hentries, hclusters, hlive⟩ := hs.holds
  have hne : clusterList ≠ epList := hep.ne_of_clustersAt hentries
  have hcopy : (s.withEndpoint epList clusterList cfg).resolveClusters entries = clusters := by
    rw [resolveClusters_congr (attrsAt_withEndpoint hep cfg), hclusters]
  have hat : (s.withEndpoint epList clusterList cfg).clustersAt clusterList = some entries := by
    simp [withEndpoint, hne, hentries]
  have hep : (s.withEndpoint epList clusterList cfg).endpointsAt epList
      = some [(cfg, clusterList)] := endpointsAt_put_self _ _ _
  simp [resolve, hep, hat, hcopy]

/-- Creating an endpoint list. -/
theorem wp_epListCreate {Q : ListPtr → SetupRecord → Prop}
    (h : ∀ p, s.Fresh p → Q p (s.put p (.endpoints []))) :
    Program.wp setupContract espZbEpListCreate Q s := ⟨rfl, h⟩

/-- Adding the cluster list under construction to the endpoint list that was created last. -/
theorem wp_addEp {Q : Unit → SetupRecord → Prop} {cfg : EspZbEndpointConfig}
    (hs : s.Building clusterList lists used clusters) (hep : s.Fresh epList)
    (h : Q () (s.withEndpoint epList clusterList cfg)) :
    Program.wp setupContract (Program.perform (SetupOp.espZbEpListAddEp epList clusterList cfg)) Q
      (s.put epList (.endpoints [])) := by
  obtain ⟨entries, hentries, -, -⟩ := hs.holds
  have hat : (s.put epList (.endpoints [])).endpointsAt epList = some [] :=
    SetupRecord.endpointsAt_put_self _ _ _
  have hat' : (s.put epList (.endpoints [])).clustersAt clusterList = some entries := by
    rw [SetupRecord.clustersAt_put, if_neg (hep.ne_of_clustersAt hentries), hentries]
  have hunused : clusterList ∉ (s.put epList (.endpoints [])).used := by
    rw [SetupRecord.put_used, hs.used_eq]
    exact hs.unused
  have hmay : (s.put epList (.endpoints [])).allows (.espZbEpListAddEp epList clusterList cfg)
      = true := by
    rw [SetupRecord.allows, hat, hat']
    exact decide_eq_true ⟨hunused, rfl, rfl⟩
  have hnext (r : EspErr) :
      (s.put epList (.endpoints [])).next ⟨.espZbEpListAddEp epList clusterList cfg, r⟩
        = s.withEndpoint epList clusterList cfg := by
    rw [SetupRecord.next, hat]
    rfl
  refine ⟨hmay, fun r _ => ?_⟩
  rw [← hnext r] at h
  exact h

end Endpoint

/-! ## The sections of the task -/

/-- The attribute lists that the task fills in, by creation and requests. -/
def basicAttrs : AttrListRequest where
  creation := .empty ZclCluster.basic.id
  requests :=
    [.add .basic attrBasicZclVersionId Zigbee.testAttr,
      .add .basic attrBasicPowerSourceId Zigbee.testAttr2,
      .update attrBasicZclVersionId Zigbee.testAttr2,
      .add .basic attrBasicModelIdentifierId Zigbee.modelid,
      .add .basic attrBasicManufacturerNameId Zigbee.manufname]

def identifyAttrs : AttrListRequest where
  creation := .empty ZclCluster.identify.id
  requests := [.add .identify attrIdentifyIdentifyTimeId Zigbee.testAttr]

def groupsAttrs : AttrListRequest where
  creation := .empty ZclCluster.groups.id
  requests := [.add .groups attrGroupsNameSupportId Zigbee.testAttr]

def scenesAttrs : AttrListRequest where
  creation := .mandatory (.scenes none)
  requests := [.update attrScenesNameSupportId Zigbee.testAttr]

def onOffAttrs : AttrListRequest where
  creation := .mandatory (.onOff false)
  requests := []

def doorLockAttrs : AttrListRequest where
  creation := .mandatory (.doorLock Zigbee.doorLockClusterConfig)
  requests := []

/-- The clusters of the first section. -/
def basicAndOnOffClusters : List (ClusterRequest (Option AttrListRequest)) :=
  [serverCluster .basic basicAttrs, serverCluster .identify identifyAttrs,
    serverCluster .groups groupsAttrs, serverCluster .scenes scenesAttrs,
    serverCluster .onOff onOffAttrs]

/-- An initialized stack without any list. -/
def SetupRecord.initial : SetupRecord := { SetupRecord.off with initialized := true }

/-- **The first section** builds a cluster list with five clusters. -/
theorem wp_basicAndOnOffClusterConfiguration :
    Program.wp setupContract Zigbee.basicAndOnOffClusterConfiguration
      (fun clusterList s => ∃ lists used, s.Building clusterList lists used basicAndOnOffClusters)
      SetupRecord.initial := by
  simp only [Zigbee.basicAndOnOffClusterConfiguration, Program.wp_bind]
  apply wp_attrListCreate
  intro basic hbasic
  apply wp_addAttr rfl (by decide)
  apply wp_addAttr rfl (by decide)
  apply wp_updateAttr (by decide)
  apply wp_addAttr rfl (by decide)
  apply wp_addAttr rfl (by decide)
  apply wp_attrListCreate
  intro identify hidentify
  apply wp_addAttr rfl (by decide)
  apply wp_attrListCreate
  intro groups hgroups
  apply wp_addAttr rfl (by decide)
  apply wp_clusterCreate
  intro scenes hscenes
  apply wp_updateAttr (by decide)
  apply wp_clusterCreate
  intro onOff honOff
  apply wp_clusterListCreate
  intro clusterList hclusterList
  simp only [SetupRecord.fresh_put, ne_eq] at hidentify hgroups hscenes honOff hclusterList
  -- what is left of the pointers: where the lists are, and that they differ
  have hnodup : [onOff, scenes, groups, identify, basic].Nodup := by
    rw [← List.nodup_reverse]
    simp [hidentify, hgroups, hscenes, honOff]
  simp only [List.nodup_cons] at hnodup
  obtain ⟨honOff', hscenes', hgroups', hidentify', hbasic', -⟩ := hnodup
  generalize hs : SetupRecord.put _ clusterList _ = s
  have hlists : s.attrsAt basic = some basicAttrs ∧ s.attrsAt identify = some identifyAttrs ∧
      s.attrsAt groups = some groupsAttrs ∧ s.attrsAt scenes = some scenesAttrs ∧
      s.attrsAt onOff = some onOffAttrs := by
    rw [← hs]
    simp only [SetupRecord.attrsAt_put, hidentify, hgroups, hscenes, honOff, hclusterList, if_false,
      if_true, ListRequest.asAttrs]
    exact ⟨rfl, rfl, rfl, rfl, rfl⟩
  obtain ⟨hbasicAt, hidentifyAt, hgroupsAt, hscenesAt, honOffAt⟩ := hlists
  have hbuilding : s.Building clusterList s.attrsAt [] [] := by
    rw [← hs]
    exact ⟨rfl, rfl, rfl, rfl, fun _ _ => List.not_mem_nil, List.not_mem_nil, [],
      SetupRecord.clustersAt_put_self _ _ _, rfl, by simp⟩
  apply wp_attach hbuilding hbasicAt rfl hbasic' (by simp)
  intro s₁ h₁
  apply wp_attach h₁ hidentifyAt rfl hidentify' (by simp [serverCluster])
  intro s₂ h₂
  apply wp_attach h₂ hgroupsAt rfl hgroups' (by simp [serverCluster])
  intro s₃ h₃
  apply wp_attach h₃ hscenesAt rfl hscenes' (by simp [serverCluster])
  intro s₄ h₄
  apply wp_attach h₄ honOffAt rfl honOff' (by simp [serverCluster])
  intro s₅ h₅
  exact ⟨_, _, h₅⟩

/-- **The second section** adds one cluster, and breaks a rule with it: the list of the Door Lock
cluster goes to the function of the On/Off cluster. The list filled in before is in no other
list. -/
theorem wp_lockClusterConfiguration {s : SetupRecord} {clusterList : ListPtr}
    {lists : ListPtr → Option AttrListRequest} {used : List ListPtr}
    {clusters : List (ClusterRequest (Option AttrListRequest))}
    (hs : s.Building clusterList lists used clusters) :
    Program.wp setupContract.auditing (Zigbee.lockClusterConfiguration clusterList)
      (fun _ t => ∃ doorLockCluster lists' used',
        t.2 = [.clusterListAddCluster .onOff clusterList doorLockCluster clusterServerRole] ∧
        lists' doorLockCluster = some doorLockAttrs ∧
        t.1.Building clusterList lists' used' (clusters ++ [serverCluster .onOff doorLockAttrs]))
      (s, []) := by
  simp only [Zigbee.lockClusterConfiguration, Program.wp_bind]
  -- up to the last call, the section keeps the rules
  apply Program.wp_auditing_of_wp
  apply wp_attrListCreate
  intro doorClusterAttributes hdoor
  apply Program.wp_auditing_of_wp
  apply wp_addAttr rfl (by decide)
  apply Program.wp_auditing_of_wp
  apply wp_addAttr rfl (by decide)
  apply Program.wp_auditing_of_wp
  apply wp_addAttr rfl (by decide)
  have hs := hs.put hdoor
  apply Program.wp_auditing_of_wp
  apply wp_clusterCreate
  intro doorLockCluster hlock
  have hs' := (hs _).put hlock doorLockAttrs
  apply Program.wp_auditing_perform_of_not_may
    (SetupRecord.not_allows_attach hs' (Function.update_self _ _ _) (by decide) clusterServerRole)
  intro r _
  exact ⟨doorLockCluster, _, _, rfl, Function.update_self _ _ _,
    hs'.next_attach (Function.update_self _ _ _) .onOff r⟩

/-- **The third section** asks for the registration of the endpoint with the clusters. -/
theorem wp_callbackFunctionRegistration {s : SetupRecord} {clusterList : ListPtr}
    {lists : ListPtr → Option AttrListRequest} {used : List ListPtr}
    {clusters : List (ClusterRequest (Option AttrListRequest))}
    (hs : s.Building clusterList lists used clusters) (appDeviceVersion : Fin 16) :
    Program.wp setupContract (Zigbee.callbackFunctionRegistration appDeviceVersion clusterList)
      (fun _ s' => s'.initialized = true ∧ s'.started = false ∧ s'.attrsAt = lists ∧
        s'.requested = some [(Zigbee.endPoint appDeviceVersion, clusters)]) s := by
  simp only [Zigbee.callbackFunctionRegistration, Program.wp_bind]
  apply wp_epListCreate
  intro epList hep
  apply wp_addEp hs hep
  have hat : (s.withEndpoint epList clusterList (Zigbee.endPoint appDeviceVersion)).endpointsAt
      epList = some [(Zigbee.endPoint appDeviceVersion, clusterList)] :=
    SetupRecord.endpointsAt_put_self _ _ _
  have hmay : (s.withEndpoint epList clusterList (Zigbee.endPoint appDeviceVersion)).allows
      (.espZbDeviceRegister epList) = true := by
    rw [SetupRecord.allows, hat]
    rfl
  have hattrs :
      (s.withEndpoint epList clusterList (Zigbee.endPoint appDeviceVersion)).attrsAt = lists :=
    (SetupRecord.attrsAt_withEndpoint hep _).trans hs.attrsAt_eq
  refine ⟨hmay, fun _ _ => ⟨rfl, fun _ _ => ⟨rfl, fun _ _ => ?_⟩⟩⟩
  exact ⟨hs.initialized, hs.started, hattrs, hs.resolve_withEndpoint hep _⟩

/-! ## The task -/

/-- The clusters that the task asks for. -/
def lockClusters : List (ClusterRequest (Option AttrListRequest)) :=
  basicAndOnOffClusters ++ [serverCluster .onOff doorLockAttrs]

/-- The task, with its breaches. -/
theorem wp_rtosTask (appDeviceVersion : Fin 16) :
    Program.wp setupContract.auditing (Zigbee.rtosTask appDeviceVersion)
      (fun _ t => ∃ clusterList doorLockCluster,
        t.1.requested = some [(Zigbee.endPoint appDeviceVersion, lockClusters)] ∧
        t.1.attrsAt doorLockCluster = some doorLockAttrs ∧
        t.2 = [.clusterListAddCluster .onOff clusterList doorLockCluster clusterServerRole])
      (.off, []) := by
  simp only [Zigbee.rtosTask, Program.wp_bind]
  apply Program.wp_auditing_of_wp
  refine ⟨rfl, fun _ _ => ?_⟩
  apply Program.wp_auditing_of_wp
  refine ⟨rfl, fun _ _ => ?_⟩
  apply Program.wp_auditing_of_wp
  apply Program.wp_mono _ wp_basicAndOnOffClusterConfiguration
  rintro clusterList s ⟨lists, used, hs⟩
  apply Program.wp_mono _ (wp_lockClusterConfiguration hs)
  rintro _ ⟨s', ops⟩ ⟨doorLockCluster, lists', used', rfl, hlist, hs'⟩
  apply Program.wp_auditing_of_wp
  apply Program.wp_mono _ (wp_callbackFunctionRegistration hs' appDeviceVersion)
  rintro _ t ⟨hinit, hstarted, hattrs, hrequested⟩
  have hlock : t.attrsAt doorLockCluster = some doorLockAttrs := by rw [hattrs, hlist]
  -- neither the start nor the main loop changes the requests
  apply Program.wp_auditing_of_wp
  rw [Program.wp_call]
  refine ⟨by simp [setupContract, SetupRecord.allows, hinit, hstarted], fun r _ => ?_⟩
  rw [Program.wp_ite]
  split
  · exact ⟨clusterList, doorLockCluster, hrequested, hlock, rfl⟩
  · next hr =>
      have hok : r = espOk := not_not.mp hr
      rw [Program.wp_bind]
      apply Program.wp_auditing_of_wp
      refine ⟨by simp [setupContract, SetupRecord.allows, SetupRecord.next, hinit, hok],
        fun _ _ => ?_⟩
      exact ⟨clusterList, doorLockCluster, hrequested, hlock, rfl⟩

/-- The call registers the device, and the stack accepts it. -/
def SetupEvent.accepts : SetupEvent → Bool
  | ⟨.espZbDeviceRegister _, r⟩ => r = espOk
  | _ => false

/-- The record of the handlers that are registered; it asks for nothing and is promised nothing. -/
def handlerRecord : Contract SetupRet (List Handler) where
  may _ _ := True
  grants _ _ := True
  next handlers
    | ⟨.espZbRawCommandHandlerRegister cb, _⟩ => handlers ++ [cb]
    | ⟨.espZbCoreActionHandlerRegister cb, _⟩ => handlers ++ [cb]
    | _ => handlers

/-- **Both handlers are registered**, whatever the stack answers. -/
theorem handlers_rtosTask (appDeviceVersion : Fin 16) (a : Answers SetupRet) :
    handlerRecord.after [] ((Zigbee.rtosTask appDeviceVersion).trace a)
      = [.espZbZclRawCommandCallback, .actionHandler] := by
  have hwp : Program.wp handlerRecord (Zigbee.rtosTask appDeviceVersion)
      (fun _ handlers => handlers = [.espZbZclRawCommandCallback, .actionHandler]) [] := by
    -- the calls before the registration leave the record empty
    simp [Zigbee.rtosTask, Zigbee.basicAndOnOffClusterConfiguration,
      Zigbee.lockClusterConfiguration, Zigbee.callbackFunctionRegistration, handlerRecord,
      espZbZclAttrListCreate, espZbScenesClusterCreate, espZbOnOffClusterCreate,
      espZbDoorLockClusterCreate, espZbZclClusterListCreate, espZbEpListCreate,
      espZbBasicClusterAddAttr, espZbIdentifyClusterAddAttr, espZbGroupsClusterAddAttr,
      espZbDoorLockClusterAddAttr, espZbClusterListAddBasicCluster,
      espZbClusterListAddIdentifyCluster, espZbClusterListAddGroupsCluster,
      espZbClusterListAddScenesCluster, espZbClusterListAddOnOffCluster, -bind_pure_comp]
  exact (Program.wp_sound hwp a (Contract.granted_of_forall (fun _ _ => trivial) _ _)).2

/-- Requests on attribute lists register nothing. -/
theorem SetupRecord.registration_request (s : SetupRecord) (p : ListPtr) (request : AttrRequest) :
    (s.request p request).accepted = s.accepted ∧ (s.request p request).handlers = s.handlers := by
  rw [SetupRecord.request]
  cases s.attrsAt p with
  | none => exact ⟨rfl, rfl⟩
  | some l => exact ⟨rfl, rfl⟩

/-- **What one call registers.** -/
theorem SetupRecord.registration_next (s : SetupRecord) (e : SetupEvent) :
    (s.next e).accepted = (e.accepts || s.accepted) ∧
      (s.next e).handlers = handlerRecord.next s.handlers e := by
  obtain ⟨op, r⟩ := e
  cases op with
  | clusterAddAttr cluster p attrId value => exact s.registration_request p _
  | espZbClusterUpdateAttr p attrId value => exact s.registration_request p _
  | clusterListAddCluster cluster clusterList attrList roleMask =>
      rw [SetupRecord.next]
      cases s.clustersAt clusterList with
      | none => exact ⟨rfl, rfl⟩
      | some l => exact ⟨rfl, rfl⟩
  | espZbEpListAddEp epList clusterList cfg =>
      rw [SetupRecord.next]
      cases s.endpointsAt epList with
      | none => exact ⟨rfl, rfl⟩
      | some l => exact ⟨rfl, rfl⟩
  | _ => exact ⟨rfl, rfl⟩

/-- The device is accepted exactly if one of its registrations is. -/
theorem SetupRecord.accepted_after (s : SetupRecord) (tr : List SetupEvent) :
    (setupContract.after s tr).accepted = true ↔
      s.accepted = true ∨ ∃ e ∈ tr, SetupEvent.accepts e = true := by
  induction tr generalizing s with
  | nil => simp
  | cons e tr ih =>
      have hnext : (setupContract.next s e).accepted = (SetupEvent.accepts e || s.accepted) :=
        (s.registration_next e).1
      rw [Contract.after_cons, ih, hnext, Bool.or_eq_true, List.exists_mem_cons_iff, or_assoc,
        or_left_comm]

/-- **The record of the registration** after the task: the device, if the stack accepts it, and both
handlers in any case. -/
theorem rtosTask_registration (appDeviceVersion : Fin 16) (a : Answers SetupRet) :
    ((setupContract.after .off ((Zigbee.rtosTask appDeviceVersion).trace a)).accepted = true ↔
      ∃ e ∈ (Zigbee.rtosTask appDeviceVersion).trace a, SetupEvent.accepts e = true) ∧
    (setupContract.after .off ((Zigbee.rtosTask appDeviceVersion).trace a)).handlers
      = [.espZbZclRawCommandCallback, .actionHandler] := by
  have haccepted := SetupRecord.accepted_after .off ((Zigbee.rtosTask appDeviceVersion).trace a)
  have hhandlers := setupContract.after_project (D := handlerRecord) SetupRecord.handlers
    (fun s e => (s.registration_next e).2) .off ((Zigbee.rtosTask appDeviceVersion).trace a)
  refine ⟨haccepted.trans (or_iff_right Bool.false_ne_true), ?_⟩
  exact hhandlers.trans (handlers_rtosTask appDeviceVersion a)

/-! ## Statuses -/

/-- The task uses the answer: a pointer, or the status of the start. -/
def SetupOp.Used : SetupOp → Prop
  | .espZbZclAttrListCreate _ => True
  | .clusterCreate _ => True
  | .espZbZclClusterListCreate => True
  | .espZbEpListCreate => True
  | .espZbStart _ => True
  | _ => False

/-- A call whose answer the task uses. -/
theorem looksOnlyAt_used {op : SetupOp} (hop : op.Used) :
    (Program.call op : Setup (SetupRet op)).LooksOnlyAt SetupOp.Used :=
  Program.looksOnlyAt_call hop

/-- A call whose answer the task drops. -/
theorem looksOnlyAt_dropped (op : SetupOp) :
    (Program.perform op : Setup Unit).LooksOnlyAt SetupOp.Used :=
  Program.looksOnlyAt_perform op

/-- The first section uses the pointers of its lists. -/
theorem looksOnlyAt_basicAndOnOffClusterConfiguration :
    Zigbee.basicAndOnOffClusterConfiguration.LooksOnlyAt SetupOp.Used := by
  unfold Zigbee.basicAndOnOffClusterConfiguration
  -- every call is of one of the two kinds
  repeat
    refine Program.looksOnlyAt_bind
      (by first | exact looksOnlyAt_used trivial | exact looksOnlyAt_dropped _) fun _ => ?_
  exact Program.looksOnlyAt_pure _

theorem looksOnlyAt_lockClusterConfiguration (clusterList : ListPtr) :
    (Zigbee.lockClusterConfiguration clusterList).LooksOnlyAt SetupOp.Used := by
  refine Program.looksOnlyAt_bind (looksOnlyAt_used trivial) fun doorClusterAttributes => ?_
  apply Program.looksOnlyAt_bind (looksOnlyAt_dropped _)
  intro _
  apply Program.looksOnlyAt_bind (looksOnlyAt_dropped _)
  intro _
  apply Program.looksOnlyAt_bind (looksOnlyAt_dropped _)
  intro _
  refine Program.looksOnlyAt_bind (looksOnlyAt_used trivial) fun doorLockCluster => ?_
  exact looksOnlyAt_dropped _

theorem looksOnlyAt_callbackFunctionRegistration (appDeviceVersion : Fin 16)
    (clusterList : ListPtr) :
    (Zigbee.callbackFunctionRegistration appDeviceVersion clusterList).LooksOnlyAt
      SetupOp.Used := by
  refine Program.looksOnlyAt_bind (looksOnlyAt_used trivial) fun epList => ?_
  apply Program.looksOnlyAt_bind (looksOnlyAt_dropped _)
  intro _
  apply Program.looksOnlyAt_bind (looksOnlyAt_dropped _)
  intro _
  apply Program.looksOnlyAt_bind (looksOnlyAt_dropped _)
  intro _
  exact looksOnlyAt_dropped _

/-- **What the task looks at**: the pointers of its lists, and the status of the start. -/
theorem looksOnlyAt_rtosTask (appDeviceVersion : Fin 16) :
    (Zigbee.rtosTask appDeviceVersion).LooksOnlyAt SetupOp.Used := by
  apply Program.looksOnlyAt_bind (looksOnlyAt_dropped _)
  intro _
  apply Program.looksOnlyAt_bind (looksOnlyAt_dropped _)
  intro _
  apply Program.looksOnlyAt_bind looksOnlyAt_basicAndOnOffClusterConfiguration
  intro clusterList
  apply Program.looksOnlyAt_bind (looksOnlyAt_lockClusterConfiguration clusterList)
  intro _
  apply Program.looksOnlyAt_bind
    (looksOnlyAt_callbackFunctionRegistration appDeviceVersion clusterList)
  intro _
  refine Program.looksOnlyAt_bind (looksOnlyAt_used trivial) fun started => ?_
  apply Program.looksOnlyAt_ite (Program.looksOnlyAt_pure _)
  apply Program.looksOnlyAt_bind (looksOnlyAt_dropped _)
  intro _
  exact Program.looksOnlyAt_pure _

/-- **No status but that of the start makes a difference.** On two stacks that hand out the same
pointers and start alike, the task makes the same calls and ends alike, whatever the other calls
return: a registration that fails goes unnoticed. -/
theorem rtosTask_eq_of_used (appDeviceVersion : Fin 16) (a a' : Answers SetupRet)
    (hused : ∀ n op, SetupOp.Used op → a n op = a' n op) :
    (Zigbee.rtosTask appDeviceVersion).calls a = (Zigbee.rtosTask appDeviceVersion).calls a' ∧
      (Zigbee.rtosTask appDeviceVersion).result a = (Zigbee.rtosTask appDeviceVersion).result a' :=
  ⟨Program.calls_eq_of_agree (looksOnlyAt_rtosTask appDeviceVersion) hused,
    Program.result_eq_of_agree (looksOnlyAt_rtosTask appDeviceVersion) hused⟩

/-- A stack that counts its lists and refuses the device. -/
def refusingAnswers : Answers SetupRet := fun n op =>
  match op with
  | .espZbDeviceRegister _ => espFail
  | op => countingAnswers n op

/-- The task does not notice that the device is refused. -/
theorem rtosTask_refused :
    (Zigbee.rtosTask 0).calls refusingAnswers = (Zigbee.rtosTask 0).calls countingAnswers ∧
      (Zigbee.rtosTask 0).result refusingAnswers = (Zigbee.rtosTask 0).result countingAnswers := by
  refine rtosTask_eq_of_used 0 refusingAnswers countingAnswers fun n op hop => ?_
  cases op with
  | espZbDeviceRegister epList => exact hop.elim
  | _ => rfl

end SmartLock
