import NumaFabric.Settings.Fabric

namespace NumaFabric.FabricConfig

def toJson (c : FabricConfig) : Json :=
  .obj [("node_id", Json.ofOption (fun n => .ofNat n.toNat) c.nodeId),
    ("control_iface", .str c.controlInterface), ("data_iface", .str c.dataInterface),
    ("data_port", .ofNat c.dataPort.toNat), ("rpc_address", .str c.rpcAddress),
    ("route_table_path", .str c.routeTablePath),
    ("gpu_inventory_path", Json.ofOption .str c.inventoryPath),
    ("address_map_path", Json.ofOption .str c.addressMapPath),
    ("ingress_workers", .ofNat c.ingressWorkers.toNat),
    ("queue_capacity", .ofNat c.queueCapacity.toNat),
    ("max_datagram_size", .ofNat c.maxDatagramSize.toNat),
    ("memory_pool_bytes", .ofNat c.memoryPoolBytes.toNat),
    ("memory_pool_base", .ofNat c.memoryPoolBase.toNat), ("transport", c.transport.toJson),
    ("enforce_release_owner", .bool c.enforceReleaseOwner),
    ("kernel_module_dir", .str c.moduleDirectory), ("default_module", .str c.defaultModule),
    ("graceful_shutdown_timeout", .ofNat c.shutdownTimeout.toNat)]

def fieldNames : List String :=
  ["node_id", "control_iface", "data_iface", "data_port", "rpc_address", "route_table_path",
    "gpu_inventory_path", "address_map_path", "ingress_workers", "queue_capacity",
    "max_datagram_size", "memory_pool_bytes", "memory_pool_base", "transport",
    "enforce_release_owner", "kernel_module_dir", "default_module", "graceful_shutdown_timeout"]

def ofJson? (j : Json) : Option FabricConfig := do
  let r ← j.record? fieldNames
  return {
    nodeId := ← r.optional "node_id" Json.toUInt32?
    controlInterface := ← r.required "control_iface" Json.toString?
    dataInterface := ← r.required "data_iface" Json.toString?
    dataPort := ← r.required "data_port" Json.toUInt16?
    rpcAddress := ← r.required "rpc_address" Json.toString?
    routeTablePath := ← r.required "route_table_path" Json.toString?
    inventoryPath := ← r.optional "gpu_inventory_path" Json.toString?
    addressMapPath := ← r.optional "address_map_path" Json.toString?
    ingressWorkers := ← r.required "ingress_workers" Json.toUInt64?
    queueCapacity := ← r.required "queue_capacity" Json.toUInt64?
    maxDatagramSize := ← r.required "max_datagram_size" Json.toUInt64?
    memoryPoolBytes := ← r.required "memory_pool_bytes" Json.toUInt64?
    memoryPoolBase := ← r.required "memory_pool_base" Json.toUInt64?
    transport := ← r.required "transport" TransportSettings.ofJson?
    enforceReleaseOwner := ← r.required "enforce_release_owner" Json.toBool?
    moduleDirectory := ← r.required "kernel_module_dir" Json.toString?
    defaultModule := ← r.required "default_module" Json.toString?
    shutdownTimeout := ← r.required "graceful_shutdown_timeout" Json.toUInt64? }

/-- The configuration with new values in place of those of the fields named, unless one of them
cannot be read. -/
def update? (c : FabricConfig) (values : List (String × Json)) : Option FabricConfig :=
  match c.toJson with
  | .obj fields => ofJson? (.obj (fields.map fun f => (f.1, (values.lookup f.1).getD f.2)))
  | _ => none

end NumaFabric.FabricConfig
