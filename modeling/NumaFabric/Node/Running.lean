import NumaFabric.Node.Startup

namespace NumaFabric.Node

def receive (n : Node) (datagram : List UInt8) : Node :=
  { n with dispatcher := ((n.dispatcher.submit datagram).2).settle (handler n.dataPort) }

def answer (n : Node) (session : Rpc.Session) (message : List UInt8) :
    Rpc.Response × Rpc.Session × Node :=
  let (response, session, state) := session.answer (backend n.dataPort) n.dispatcher.state message
  (response, session, { n with dispatcher := { n.dispatcher with state } })

def hangUp (n : Node) (session : Rpc.Session) : Node :=
  { n with dispatcher := { n.dispatcher with state := session.finish n.dispatcher.state } }

/-- Reads the route table again; one that cannot be read changes nothing. -/
def reloadRoutes (n : Node) (file : Option String) : Node :=
  let services := n.dispatcher.state
  let routes := (services.router.routes.reload file).2
  let state := { services with router := { services.router with routes } }
  { n with dispatcher := { n.dispatcher with state } }

def stop (n : Node) : Node :=
  let dispatcher := n.dispatcher.shutdown (handler n.dataPort)
  let listener := match n.listener.unregister n.pool with
    | .ok e => e
    | .error _ => n.listener
  let (listener, sockets) := n.sockets.close listener
  { n with dispatcher, listener, sockets }

def takeFrames (n : Node) : Transit × Node :=
  let services := n.dispatcher.state
  let (connections, transit) := services.router.links
  let state := { services with router := { services.router with links := (connections, []) } }
  (transit, { n with dispatcher := { n.dispatcher with state } })

def neededModule? (n : Node) (message : List UInt8) : Option (String × String) :=
  match Rpc.Request.decode? message with
  | some (.launchKernel launch) =>
    let services := n.dispatcher.state
    let module := launch.module.getD services.launcher.defaultModule
    match ModuleDirectory.modulePath services.modules.path module with
    | .ok path => some (path, ModuleDirectory.fileName module)
    | .error _ => none
  | _ => none

def seeModule (n : Node) (file : String) (bytes : Option (List UInt8)) : Node :=
  let services := n.dispatcher.state
  let modules := match bytes with
    | some bytes => services.modules.write file (.file bytes)
    | none => services.modules.delete file
  { n with dispatcher := { n.dispatcher with state := { services with modules } } }

end NumaFabric.Node
