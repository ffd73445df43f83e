import TableScaffold.Template.Piece

/-!
# Built-in templates: services

The template of a file and the template of its snippet in the combined file, line
by line.  A template whose last line is empty ends with a line feed.
-/

namespace TableScaffold.Template.Builtin.Service

open SlotName Piece

/-- The package, its imports, and the service with its constructor. -/
def header : List (List Piece) := [
  line ["package service"],
  line [],
  line ["import ("],
  line ["\t\"context\""],
  line [],
  line ["\t\"google.golang.org/grpc/codes\""],
  line ["\t\"google.golang.org/grpc/status\""],
  line ["\t\"google.golang.org/protobuf/types/known/emptypb\""],
  line [],
  line ["\t\"", goModule, "/config\""],
  line ["\t\"", goModule, "/genproto/", protoPackage, "\""],
  line ["\t\"", goModule, "/grpc/client\""],
  line ["\t\"", goModule, "/models\""],
  line ["\t\"", goModule, "/pkg/logger\""],
  line ["\t\"", goModule, "/storage\""],
  line [")"],
  line [],
  line ["type ", entity, "Service struct \x7b"],
  line ["\tcfg      config.Config"],
  line ["\tlog      logger.LoggerI"],
  line ["\tstrg     storage.StorageI"],
  line ["\tservices client.ServiceManagerI"],
  line ["\t", protoPackage, ".Unimplemented", entity, "ServiceServer"],
  line ["\x7d"],
  line [],
  line ["func New", entity,
    "Service(cfg config.Config, log logger.LoggerI, strg storage.StorageI, srvs client.ServiceManagerI) *",
    entity, "Service \x7b"],
  line ["\treturn &", entity, "Service\x7b"],
  line ["\t\tcfg:      cfg,"],
  line ["\t\tlog:      log,"],
  line ["\t\tstrg:     strg,"],
  line ["\t\tservices: srvs,"],
  line ["\t\x7d"],
  line ["\x7d"],
  line []]

/-- The call that creates a row. -/
def create : List (List Piece) := [
  line ["func (i *", entity, "Service) Create", entity, "(ctx context.Context, req *",
    protoPackage, ".Create", entity, "Request) (resp *", protoPackage, ".", entity,
    ", err error) \x7b"],
  line [],
  line ["\ti.log.Info(\"---Create", entity, "------>\", logger.Any(\"req\", req))"],
  line [],
  line ["\tpKey, err := i.strg.", entity, "().Create(ctx, req)"],
  line ["\tif err != nil \x7b"],
  line ["\t\ti.log.Error(\"!!!Create", entity, "->", entity, "->Create--->\", logger.Error(err))"],
  line ["\t\treturn nil, status.Error(codes.InvalidArgument, err.Error())"],
  line ["\t\x7d"],
  line [],
  line ["\tresp, err = i.strg.", entity, "().GetByPKey(ctx, pKey)"],
  line ["\tif err != nil \x7b"],
  line ["\t\ti.log.Error(\"!!!Create", entity, "->", entity,
    "->GetByPKey--->\", logger.Error(err))"],
  line ["\t\treturn nil, status.Error(codes.InvalidArgument, err.Error())"],
  line ["\t\x7d"],
  line [],
  line ["\treturn"],
  line ["\x7d"],
  line []]

/-- The call that answers one row. -/
def getByID : List (List Piece) := [
  line ["func (i *", entity, "Service) GetByID", entity, "(ctx context.Context, req *",
    protoPackage, ".", entity, "PrimaryKey) (resp *", protoPackage, ".", entity,
    ", err error) \x7b"],
  line [],
  line ["\ti.log.Info(\"---GetByID", entity, "------>\", logger.Any(\"req\", req))"],
  line [],
  line ["\tresp, err = i.strg.", entity, "().GetByPKey(ctx, req)"],
  line ["\tif err != nil \x7b"],
  line ["\t\ti.log.Error(\"!!!GetByID", entity, "->", entity,
    "->GetByPKey--->\", logger.Error(err))"],
  line ["\t\treturn nil, status.Error(codes.InvalidArgument, err.Error())"],
  line ["\t\x7d"],
  line [],
  line ["\treturn"],
  line ["\x7d"],
  line []]

/-- The call that answers the rows that pass a filter. -/
def getList : List (List Piece) := [
  line ["func (i *", entity, "Service) GetList", entity, "(ctx context.Context, req *",
    protoPackage, ".GetList", entity, "Request) (resp *", protoPackage, ".GetList", entity,
    "Response, err error) \x7b"],
  line [],
  line ["\ti.log.Info(\"---GetList", entity, "------>\", logger.Any(\"req\", req))"],
  line [],
  line ["\tresp, err = i.strg.", entity, "().GetAll(ctx, req)"],
  line ["\tif err != nil \x7b"],
  line ["\t\ti.log.Error(\"!!!GetList", entity, "->", entity, "->GetAll--->\", logger.Error(err))"],
  line ["\t\treturn nil, status.Error(codes.InvalidArgument, err.Error())"],
  line ["\t\x7d"],
  line [],
  line ["\treturn"],
  line ["\x7d"],
  line []]

/-- The call that changes a row. -/
def update : List (List Piece) := [
  line ["func (i *", entity, "Service) Update", entity, "(ctx context.Context, req *",
    protoPackage, ".Update", entity, "Request) (resp *", protoPackage, ".", entity,
    ", err error) \x7b"],
  line [],
  line ["\ti.log.Info(\"---Update", entity, "------>\", logger.Any(\"req\", req))"],
  line [],
  line ["\trowsAffected, err := i.strg.", entity, "().Update(ctx, req)"],
  line [],
  line ["\tif err != nil \x7b"],
  line ["\t\ti.log.Error(\"!!!Update", entity, "--->\", logger.Error(err))"],
  line ["\t\treturn nil, status.Error(codes.InvalidArgument, err.Error())"],
  line ["\t\x7d"],
  line [],
  line ["\tif rowsAffected <= 0 \x7b"],
  line ["\t\treturn nil, status.Error(codes.InvalidArgument, \"no rows were affected\")"],
  line ["\t\x7d"],
  line [],
  line ["\tresp, err = i.strg.", entity, "().GetByPKey(ctx, &", protoPackage, ".", entity,
    "PrimaryKey\x7bId: req.Id\x7d)"],
  line ["\tif err != nil \x7b"],
  line ["\t\ti.log.Error(\"!!!Update", entity, "--->\", logger.Error(err))"],
  line ["\t\treturn nil, status.Error(codes.NotFound, err.Error())"],
  line ["\t\x7d"],
  line [],
  line ["\treturn resp, err"],
  line ["\x7d"],
  line []]

/-- The call that changes some fields of a row. -/
def updatePatch : List (List Piece) := [
  line ["func (i *", entity, "Service) UpdatePatch", entity, "(ctx context.Context, req *",
    protoPackage, ".UpdatePatch", entity, "Request) (resp *", protoPackage, ".", entity,
    ", err error) \x7b"],
  line [],
  line ["\ti.log.Info(\"---UpdatePatch", entity, "------>\", logger.Any(\"req\", req))"],
  line [],
  line ["\tupdatePatchModel := models.UpdatePatchRequest\x7b"],
  line ["\t\tId:     req.GetId(),"],
  line ["\t\tFields: req.GetFields().AsMap(),"],
  line ["\t\x7d"],
  line [],
  line ["\trowsAffected, err := i.strg.", entity, "().UpdatePatch(ctx, &updatePatchModel)"],
  line [],
  line ["\tif err != nil \x7b"],
  line ["\t\ti.log.Error(\"!!!UpdatePatch", entity, "--->\", logger.Error(err))"],
  line ["\t\treturn nil, status.Error(codes.InvalidArgument, err.Error())"],
  line ["\t\x7d"],
  line [],
  line ["\tif rowsAffected <= 0 \x7b"],
  line ["\t\treturn nil, status.Error(codes.InvalidArgument, \"no rows were affected\")"],
  line ["\t\x7d"],
  line [],
  line ["\tresp, err = i.strg.", entity, "().GetByPKey(ctx, &", protoPackage, ".", entity,
    "PrimaryKey\x7bId: req.Id\x7d)"],
  line ["\tif err != nil \x7b"],
  line ["\t\ti.log.Error(\"!!!UpdatePatch", entity, "--->\", logger.Error(err))"],
  line ["\t\treturn nil, status.Error(codes.NotFound, err.Error())"],
  line ["\t\x7d"],
  line [],
  line ["\treturn resp, err"],
  line ["\x7d"],
  line []]

/-- The call that deletes a row. -/
def delete : List (List Piece) := [
  line ["func (i *", entity, "Service) Delete", entity, "(ctx context.Context, req *",
    protoPackage, ".", entity, "PrimaryKey) (resp *emptypb.Empty, err error) \x7b"],
  line [],
  line ["\ti.log.Info(\"---Delete", entity, "------>\", logger.Any(\"req\", req))"],
  line [],
  line ["\terr = i.strg.", entity, "().Delete(ctx, req)"],
  line ["\tif err != nil \x7b"],
  line ["\t\ti.log.Error(\"!!!Delete", entity, "->", entity, "->Delete--->\", logger.Error(err))"],
  line ["\t\treturn nil, status.Error(codes.InvalidArgument, err.Error())"],
  line ["\t\x7d"],
  line [],
  line ["\treturn &emptypb.Empty\x7b\x7d, nil"],
  line ["\x7d"],
  line []]

/-- The service of a table, which calls its repository. -/
def lines : List (List Piece) :=
  header ++ create ++ getByID ++ getList ++ update ++ updatePatch ++ delete

/-- The registration of a table's service. -/
def snippetLines : List (List Piece) := [
  line ["\t", protoPackage, ".Register", entity, "ServiceServer(grpcServer, service.New", entity,
    "Service(cfg, log, strg, srvs))"]]

end TableScaffold.Template.Builtin.Service
