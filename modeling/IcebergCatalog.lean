import IcebergCatalog.Metadata
import IcebergCatalog.Store
import IcebergCatalog.Types
import IcebergCatalog.Lookup
import IcebergCatalog.Create
import IcebergCatalog.Rename
import IcebergCatalog.Commit
import IcebergCatalog.Run
import IcebergCatalog.Location
import IcebergCatalog.Concurrent
import IcebergCatalog.Footprint
import IcebergCatalog.Overlap
import IcebergCatalog.Reads
import IcebergCatalog.Permute
import IcebergCatalog.Query
import IcebergCatalog.Warehouse
